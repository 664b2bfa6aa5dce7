import ExpiryAudit.Batch
import ExpiryAudit.Proofs.Alike
import ExpiryAudit.Proofs.Lines
import ExpiryAudit.Proofs.Run

/-!
# Audits in lockstep

Two audits of the same events in the same world, with histories that look the same, find
the same lines and stay in the same world with histories that look the same. Logs and
statistics have no part in it, and neither have the numbers of lines.
-/
namespace ExpiryAudit

variable {σ : Type}

/-- One world, and histories that look the same. -/
structure Session.Alike (s t : Session σ) : Prop where
  world : s.world = t.world
  history : s.history.Alike t.history

/-- Verifications that differ in how the updates before are kept. -/
structure Verification.Alike (v x : Verification) : Prop where
  key : v.key = x.key
  rule : v.rule = x.rule
  previous : LookAlike v.previous x.previous
  observation : v.observation = x.observation

namespace Verification.Alike

variable {v x : Verification}

theorem holds_eq (h : v.Alike x) : v.holds = x.holds := by
  rw [holds, holds, ← h.rule, ← h.observation, Rule.verify_eq h.previous]

theorem line_eq (h : v.Alike x) : v.line = x.line := by
  obtain ⟨key, rule, previous, observation⟩ := v
  obtain ⟨key', rule', previous', observation'⟩ := x
  obtain ⟨rfl, rfl, hprevious, rfl⟩ := h
  exact Verification.line_eq hprevious observation

end Verification.Alike

namespace Auditor

variable {a : Auditor σ} {r : Rule} {key : Text} {p : Payload} {s t s' t' : Session σ}

/-- Nothing of an attempt is left open. -/
theorem Attempt.unique {w w₁ w₂ : σ} {o o' : Observation} {u u' : Update}
    (h : a.Attempt r key p w w₁ o u) (h' : a.Attempt r key p w w₂ o' u') :
    w₁ = w₂ ∧ o = o' ∧ u = u' := by
  obtain ⟨ho, hw⟩ := Prod.mk.inj (h.observed.symm.trans h'.observed)
  cases ho
  exact ⟨hw, rfl, Except.ok.inj (h.update.symm.trans h'.update)⟩

/-- The step: one evaluation. -/
theorem Evaluates.alike {v x : Verification} (hst : s.Alike t)
    (h : a.Evaluates r key p s v s') (h' : a.Evaluates r key p t x t') :
    v.Alike x ∧ s'.Alike t' := by
  have hprevious := hst.history ⟨key, r.id⟩
  have hwindows := hprevious.windows_eq
  cases h with
  | clean acquired attempt unambiguous history _ =>
    cases h' with
    | clean acquired' attempt' unambiguous' history' _ =>
      rw [hst.world] at acquired
      obtain ⟨-, rfl⟩ := Prod.mk.inj (acquired.symm.trans acquired')
      obtain ⟨hworld, rfl, rfl⟩ := attempt.unique attempt'
      refine ⟨⟨rfl, rfl, hprevious, rfl⟩, ⟨hworld, ?_⟩⟩
      rw [history, history']
      exact hst.history.append _ _
    | retried acquired' first' ambiguous' _ _ _ _ =>
      rw [hst.world] at acquired
      obtain ⟨-, rfl⟩ := Prod.mk.inj (acquired.symm.trans acquired')
      obtain ⟨-, rfl, rfl⟩ := attempt.unique first'
      rw [hwindows, ambiguous'] at unambiguous
      cases unambiguous
  | retried acquired first ambiguous cleared second history _ =>
    cases h' with
    | clean acquired' attempt' unambiguous' _ _ =>
      rw [hst.world] at acquired
      obtain ⟨-, rfl⟩ := Prod.mk.inj (acquired.symm.trans acquired')
      obtain ⟨-, rfl, rfl⟩ := first.unique attempt'
      rw [hwindows, unambiguous'] at ambiguous
      cases ambiguous
    | retried acquired' first' _ cleared' second' history' _ =>
      rw [hst.world] at acquired
      obtain ⟨-, rfl⟩ := Prod.mk.inj (acquired.symm.trans acquired')
      obtain ⟨rfl, rfl, rfl⟩ := first.unique first'
      obtain ⟨-, rfl⟩ := Prod.mk.inj (cleared.symm.trans cleared')
      obtain ⟨hworld, rfl, rfl⟩ := second.unique second'
      refine ⟨⟨rfl, rfl, rfl, rfl⟩, ⟨hworld, ?_⟩⟩
      rw [history, history']
      exact (hst.history.clear _).append _ _

theorem judge_alike {v x : Verification} (hv : v.Alike x) (hst : s.Alike t)
    {line line' : Option String} (h : (judge v).run s = (.ok line, s'))
    (h' : (judge x).run t = (.ok line', t')) : line = line' ∧ s'.Alike t' := by
  obtain ⟨hline, hworld, hhistory⟩ := run_judge_ok h
  obtain ⟨hline', hworld', hhistory'⟩ := run_judge_ok h'
  have halike : s'.Alike t' := by
    refine ⟨?_, ?_⟩
    · rw [hworld, hworld', hst.world]
    · rw [hhistory, hhistory']
      exact hst.history
  rw [hv.holds_eq, hv.line_eq] at hline
  obtain ⟨hholds, rfl⟩ | ⟨hholds, text, htext, rfl⟩ := hline
  · obtain ⟨-, rfl⟩ | ⟨hholds', -⟩ := hline'
    · exact ⟨rfl, halike⟩
    · cases hholds.symm.trans hholds'
  · obtain ⟨hholds', -⟩ | ⟨-, text', htext', rfl⟩ := hline'
    · cases hholds.symm.trans hholds'
    · cases htext.symm.trans htext'
      exact ⟨rfl, halike⟩

theorem judgeAll_alike {pairs : List (Rule × Json)} {lines lines' : List String}
    (hst : s.Alike t) (h : (a.judgeAll key pairs).run s = (.ok lines, s'))
    (h' : (a.judgeAll key pairs).run t = (.ok lines', t')) : lines = lines' ∧ s'.Alike t' := by
  induction pairs generalizing s t lines lines' with
  | nil =>
    obtain ⟨rfl, rfl⟩ := Act.run_pure_eq_ok h
    obtain ⟨rfl, rfl⟩ := Act.run_pure_eq_ok h'
    exact ⟨rfl, hst⟩
  | cons pair rest ih =>
    obtain ⟨v, s₁, hevaluated, h⟩ := Act.run_bind_eq_ok h
    obtain ⟨line, s₂, hjudged, h⟩ := Act.run_bind_eq_ok h
    obtain ⟨others, s₃, hrest, h⟩ := Act.run_bind_eq_ok h
    obtain ⟨x, t₁, hevaluated', h'⟩ := Act.run_bind_eq_ok h'
    obtain ⟨line', t₂, hjudged', h'⟩ := Act.run_bind_eq_ok h'
    obtain ⟨others', t₃, hrest', h'⟩ := Act.run_bind_eq_ok h'
    obtain ⟨rfl, rfl⟩ := Act.run_pure_eq_ok h
    obtain ⟨rfl, rfl⟩ := Act.run_pure_eq_ok h'
    obtain ⟨hv, hst₁⟩ := Evaluates.alike hst (evaluates_of_run hevaluated)
      (evaluates_of_run hevaluated')
    obtain ⟨rfl, hst₂⟩ := judge_alike hv hst₁ hjudged hjudged'
    obtain ⟨rfl, hst₃⟩ := ih hst₂ hrest hrest'
    exact ⟨rfl, hst₃⟩

theorem process_alike {e : Event} {lines lines' : List String} (hst : s.Alike t)
    (h : (a.process e).run s = (.ok lines, s')) (h' : (a.process e).run t = (.ok lines', t')) :
    lines = lines' ∧ s'.Alike t' := by
  obtain ⟨raws, s₁, hprepared, h⟩ := Act.run_bind_eq_ok h
  obtain ⟨number, s₂, hcounted, h⟩ := Act.run_bind_eq_ok h
  obtain ⟨found, s₃, hjudged, h⟩ := Act.run_bind_eq_ok h
  obtain ⟨⟨⟩, s₄, hreported, h⟩ := Act.run_bind_eq_ok h
  obtain ⟨raws', t₁, hprepared', h'⟩ := Act.run_bind_eq_ok h'
  obtain ⟨number', t₂, hcounted', h'⟩ := Act.run_bind_eq_ok h'
  obtain ⟨found', t₃, hjudged', h'⟩ := Act.run_bind_eq_ok h'
  obtain ⟨⟨⟩, t₄, hreported', h'⟩ := Act.run_bind_eq_ok h'
  obtain ⟨rfl, rfl⟩ := Act.run_pure_eq_ok h
  obtain ⟨rfl, rfl⟩ := Act.run_pure_eq_ok h'
  obtain ⟨hraws, rfl⟩ := Act.run_lift_eq_ok hprepared
  obtain ⟨hraws', rfl⟩ := Act.run_lift_eq_ok hprepared'
  cases hraws.symm.trans hraws'
  obtain ⟨-, rfl⟩ := Prod.mk.inj hcounted
  obtain ⟨-, rfl⟩ := Prod.mk.inj hcounted'
  obtain ⟨log, rfl⟩ := Session.run_report_ok hreported
  obtain ⟨log', rfl⟩ := Session.run_report_ok hreported'
  obtain ⟨rfl, hst₃⟩ := judgeAll_alike (s := { s with events := s.events + 1 })
    (t := { t with events := t.events + 1 }) ⟨hst.world, hst.history⟩ hjudged hjudged'
  exact ⟨rfl, hst₃.world, hst₃.history⟩

/-! ## Events one after another -/

/-- The diagnostic lines of events, one after another. -/
def processAll (a : Auditor σ) : List Event → Act (Session σ) (List String)
  | [] => pure []
  | e :: rest => do
    let found ← a.process e
    let more ← processAll a rest
    return found ++ more

theorem processAll_alike {events : List Event} {lines lines' : List String} (hst : s.Alike t)
    (h : (a.processAll events).run s = (.ok lines, s'))
    (h' : (a.processAll events).run t = (.ok lines', t')) : lines = lines' ∧ s'.Alike t' := by
  induction events generalizing s t lines lines' with
  | nil =>
    obtain ⟨rfl, rfl⟩ := Act.run_pure_eq_ok h
    obtain ⟨rfl, rfl⟩ := Act.run_pure_eq_ok h'
    exact ⟨rfl, hst⟩
  | cons e rest ih =>
    obtain ⟨found, s₁, hfound, h⟩ := Act.run_bind_eq_ok h
    obtain ⟨more, s₂, hmore, h⟩ := Act.run_bind_eq_ok h
    obtain ⟨found', t₁, hfound', h'⟩ := Act.run_bind_eq_ok h'
    obtain ⟨more', t₂, hmore', h'⟩ := Act.run_bind_eq_ok h'
    obtain ⟨rfl, rfl⟩ := Act.run_pure_eq_ok h
    obtain ⟨rfl, rfl⟩ := Act.run_pure_eq_ok h'
    obtain ⟨rfl, hst₁⟩ := process_alike hst hfound hfound'
    obtain ⟨rfl, hst₂⟩ := ih hst₁ hmore hmore'
    exact ⟨rfl, hst₂⟩

/-- Events in two parts are processed part by part. -/
theorem run_processAll_append {events others : List Event} {lines : List String}
    (h : (a.processAll (events ++ others)).run s = (.ok lines, s')) :
    ∃ found t more, (a.processAll events).run s = (.ok found, t) ∧
      (a.processAll others).run t = (.ok more, s') ∧ lines = found ++ more := by
  induction events generalizing s lines with
  | nil => exact ⟨[], s, lines, rfl, h, rfl⟩
  | cons e events ih =>
    obtain ⟨first, s₁, hfirst, h⟩ := Act.run_bind_eq_ok h
    obtain ⟨rest, s₂, hrest, h⟩ := Act.run_bind_eq_ok h
    obtain ⟨rfl, rfl⟩ := Act.run_pure_eq_ok h
    obtain ⟨found, t, more, hfound, hmore, rfl⟩ := ih hrest
    refine ⟨first ++ found, t, more, ?_, hmore, (List.append_assoc _ _ _).symm⟩
    rw [processAll, Act.run_bind_ok hfirst, Act.run_bind_ok hfound]
    rfl

theorem completes_processAll {events : List Event} {s₀ : Session σ} (hs : a.Completes s₀ s)
    {lines : List String} (h : (a.processAll events).run s = (.ok lines, s')) :
    a.Completes s₀ s' := by
  induction events generalizing s lines with
  | nil =>
    obtain ⟨-, rfl⟩ := Act.run_pure_eq_ok h
    exact hs
  | cons e rest ih =>
    obtain ⟨found, s₁, hfound, h⟩ := Act.run_bind_eq_ok h
    obtain ⟨more, s₂, hmore, h⟩ := Act.run_bind_eq_ok h
    obtain ⟨-, rfl⟩ := Act.run_pure_eq_ok h
    exact ih (hs.process hfound) hmore

/-! ## Lines one after another -/

/-- The lines of a file that are not blank are events, which are processed one after
another. -/
theorem run_processLines_ok {number : Nat} {written : List (List Char)} {lines : List String}
    (h : (a.processLines number written).run s = (.ok lines, s')) :
    ∃ events, (written.filter fun l => !l.isEmpty).mapM a.readEvent = .ok events ∧
      (a.processAll events).run s = (.ok lines, s') := by
  induction written generalizing number s lines with
  | nil => exact ⟨[], rfl, h⟩
  | cons line rest ih =>
    unfold processLines at h
    split at h
    · next hblank =>
      rw [List.filter_cons_of_neg (by simp [hblank])]
      exact ih h
    · next hline =>
      obtain ⟨e, s₁, hlifted, h⟩ := Act.run_bind_eq_ok h
      obtain ⟨found, s₂, hfound, h⟩ := Act.run_bind_eq_ok h
      obtain ⟨more, s₃, hmore, h⟩ := Act.run_bind_eq_ok h
      obtain ⟨rfl, rfl⟩ := Act.run_pure_eq_ok h
      obtain ⟨hread, rfl⟩ := Act.run_lift_eq_ok hlifted
      obtain ⟨events, hevents, hall⟩ := ih hmore
      have hevent : a.readEvent line = .ok e := by
        cases hr : a.readEvent line with
        | error f => rw [hr] at hread; cases hread
        | ok e' => rw [hr] at hread; exact hread
      refine ⟨e :: events, ?_, ?_⟩
      · rw [List.filter_cons_of_pos (by simpa using hline), List.mapM_cons, hevent, hevents]
        rfl
      · rw [processAll, Act.run_bind_ok hfound, Act.run_bind_ok hall]
        rfl

/-- The lines of a content that are read and are not blank. -/
def contents (content : FileContent) : List (List Char) :=
  content.lines.1.filter fun l => !l.isEmpty

/-- A content whose events have been processed has been read to its end. -/
theorem run_processContent_ok {content : FileContent} {lines : List String}
    (h : (a.processFile content).run s = (.ok lines, s')) :
    content.lines.2 = none ∧ ∃ events, (contents content).mapM a.readEvent = .ok events ∧
      (a.processAll events).run s = (.ok lines, s') := by
  obtain ⟨found, s₁, hfound, h⟩ := Act.run_bind_eq_ok h
  split at h
  · next hend =>
    obtain ⟨rfl, rfl⟩ := Act.run_pure_eq_ok h
    exact ⟨hend, run_processLines_ok hfound⟩
  · cases h

theorem run_processFile_ok {text : String} {lines : List String}
    (h : (a.processFile (.text text)).run s = (.ok lines, s')) :
    ∃ events, (Text.contents text.toList).mapM a.readEvent = .ok events ∧
      (a.processAll events).run s = (.ok lines, s') := (run_processContent_ok h).2

/-- A text in two parts, the second of which is processed from where the first has led to,
is processed as its parts are. -/
theorem processFile_append_alike {text₁ text₂ : String} (hends : Text.EndsLine text₁.toList)
    {s₁ t₁ s₂ t₂ : Session σ} {lines₁ lines₂ lines : List String}
    (h₁ : (a.processFile (.text text₁)).run s₁ = (.ok lines₁, t₁))
    (h₂ : (a.processFile (.text text₂)).run s₂ = (.ok lines₂, t₂))
    (h : (a.processFile (.text (text₁ ++ text₂))).run s = (.ok lines, s'))
    (hstart : s₁.Alike s) (hseam : ∀ t : Session σ, t₁.Alike t → s₂.Alike t) :
    lines = lines₁ ++ lines₂ ∧ t₂.Alike s' := by
  obtain ⟨events₁, hevents₁, hall₁⟩ := run_processFile_ok h₁
  obtain ⟨events₂, hevents₂, hall₂⟩ := run_processFile_ok h₂
  obtain ⟨events, hevents, hall⟩ := run_processFile_ok h
  -- The events of the whole text are those of its parts.
  rw [String.toList_append, Text.contents_append hends, List.mapM_append, hevents₁, hevents₂]
    at hevents
  cases hevents
  obtain ⟨found, t, more, hfound, hmore, rfl⟩ := run_processAll_append hall
  obtain ⟨rfl, ht⟩ := processAll_alike hstart hall₁ hfound
  obtain ⟨rfl, hs'⟩ := processAll_alike (hseam t ht) hall₂ hmore
  exact ⟨rfl, hs'⟩

end Auditor
end ExpiryAudit
