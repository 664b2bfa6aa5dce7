import ExpiryAudit.Event
import ExpiryAudit.Session
import ExpiryAudit.Verification

/-!
# Auditing events

For every rule an event is applied to the host between two reads. If the window
of the update is ambiguous, host state and history of the slot are dropped and
the update is applied once more. The update is then counted and recorded, and
its reads are judged against the history before it.
-/
namespace ExpiryAudit

structure Auditor (σ : Type) where
  rules : List Rule
  detector : Detector
  environment : Environment σ
  nodup : (rules.map (·.id)).Nodup

namespace Auditor

variable {σ : Type}

/-- Refuses two rules of one name. -/
def make (rules : List Rule) (config : Config) (environment : Environment σ) :
    Except Fault (Auditor σ) :=
  if h : (rules.map (·.id)).Nodup then
    .ok ⟨rules, ⟨config.lifetime.amount, config.lifetime.amount_pos⟩, environment, h⟩
  else .error (.duplicateRules (rules.map (·.id)))

/-- The payload of an event for every rule. Nothing is touched when one is
missing or refused. -/
def prepare (a : Auditor σ) (e : Event) : Except Fault (List Json) :=
  a.rules.mapM fun r => do
    let raw ← e.updateFor r.id
    r.kind.validate (.raw raw)
    return raw

/-- Drops what host and history hold and applies the payload once more. -/
def retry (a : Auditor σ) (r : Rule) (key : Text) (p : Payload) :
    Act (Session σ) Observation := do
  Session.inWorld (a.environment.host.clear (r.handle key))
  Session.clearHistory ⟨key, r.id⟩
  let o ← Session.inWorld (r.observe a.environment (r.handle key) p)
  Session.report (.reset key r.id)
  return o

/-- Applies a payload, decides whether that can be judged, and records it. -/
def evaluate (a : Auditor σ) (r : Rule) (key : Text) (p : Payload) :
    Act (Session σ) Verification := do
  Session.inWorld (a.environment.host.acquire (r.handle key))
  let previous ← Session.loadHistory ⟨key, r.id⟩
  let first ← Session.inWorld (r.observe a.environment (r.handle key) p)
  let attempt ← Act.lift first.update
  let verdict := a.detector.judge attempt.window (windows previous)
  Session.reportAny (a.detector.logOf attempt.window verdict)
  let (previous, o) ← if verdict.isAmbiguous then do
      let o ← a.retry r key p
      pure ([], o)
    else pure (previous, first)
  Session.count verdict.isAmbiguous previous.length
  let u ← Act.lift o.update
  Session.appendHistory ⟨key, r.id⟩ u
  return ⟨key, r, previous, o⟩

/-- The diagnostic line of a verification that fails. -/
def judge (v : Verification) : Act (Session σ) (Option String) := do
  if ← Act.lift v.holds then return none
  Session.countFailure
  Session.report (.failure v.key v.rule.id v.observation.valueBefore v.observation.valueAfter)
  let line ← Act.lift v.line
  return some line

/-- The diagnostic lines of the rules, in their order. -/
def judgeAll (a : Auditor σ) (key : Text) : List (Rule × Json) → Act (Session σ) (List String)
  | [] => pure []
  | (r, raw) :: rest => do
    let v ← a.evaluate r key (.raw raw)
    let line ← judge v
    let lines ← judgeAll a key rest
    return line.toList ++ lines

/-- The diagnostic lines of an event. -/
def process (a : Auditor σ) (e : Event) : Act (Session σ) (List String) := do
  let raws ← Act.lift (a.prepare e)
  let number ← Session.countEvent
  let lines ← a.judgeAll e.key (a.rules.zip raws)
  Session.report (.processed number e.key lines.length)
  return lines

end Auditor
end ExpiryAudit
