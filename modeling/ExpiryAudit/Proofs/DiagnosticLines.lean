import ExpiryAudit.Proofs.JsonLines
import ExpiryAudit.Proofs.LoadedHistory
import ExpiryAudit.Proofs.Lockstep
import ExpiryAudit.Proofs.SteadyClock

/-!
# Diagnostic lines

The line of a verification that fails is one line of plain characters. It is read as an
object that holds key and rule, the updates before, the payload and both reads, all of them
as they are encoded.
-/
namespace ExpiryAudit

variable {σ : Type}

/-! ## What a line says -/

/-- What is encoded can be read back, if the payload can. -/
theorem Payload.Legible.restored_of_encode {k : RuleKind} {p : Payload} {v : Json}
    (h : p.Legible) (hencode : k.encode p = .ok v) (hwritable : v.isWritable = true) :
    Json.Restored Payload.depthLimit v := by
  cases k with
  | map =>
    obtain ⟨⟨name, n⟩, -, hencode⟩ := eq_ok_of_bind_eq_ok hencode
    cases hencode
    exact Json.restored_pair 984 name hwritable
  | value | list | reducing =>
    cases hencode
    exact h hwritable

theorem Update.restored_of_toJson {k : RuleKind} {u : Update} {d : Json}
    (h : u.payload.Legible) (hd : u.toJson k.encode = .ok d) (hwritable : d.isWritable = true) :
    Json.Restored (Payload.depthLimit + 1) d := by
  obtain ⟨v, hv, hd⟩ := eq_ok_of_bind_eq_ok hd
  cases hd
  exact Update.restored_saved (h.restored_of_encode hv) hwritable

namespace Verification

/-- The object of a diagnostic line. -/
def object (v : Verification) (previous : List Json) (payload before after : Json) : Json :=
  .obj [("key", .str v.key), ("prev_updates", .arr previous), ("rule_id", .str v.rule.id),
    ("update_context", .obj [("after_ts", .int v.observation.after),
      ("before_ts", .int v.observation.before), ("raw_update", payload),
      ("value_after", after), ("value_before", before)])]

/-- The updates before, the payload and both reads as they are encoded. -/
structure Encoded (v : Verification) (previous : List Json) (payload before after : Json) :
    Prop where
  previous : v.previous.mapM (fun u => u.toJson v.rule.kind.encode) = .ok previous
  payload : v.rule.kind.encode v.observation.payload = .ok payload
  before : v.observation.valueBefore.written = .ok before
  after : v.observation.valueAfter.written = .ok after

/-- The line of a verification, which is read as its object. -/
structure Tells (v : Verification) (line : String) : Prop where
  plain : ∀ c ∈ line.toList, Json.IsPlain c
  parsed : ∃ previous payload before after, v.Encoded previous payload before after ∧
    (Json.Restored (Json.depthLimit - 2) before → Json.Restored (Json.depthLimit - 2) after →
      Json.parse line.toList =
        .ok (v.object (previous.map Json.sorted) payload.sorted before after))

theorem eq_of_writable {v w : Json} (h : v.writable = .ok w) : v.isWritable = true ∧ w = v := by
  unfold Json.writable Json.writableIf at h
  split at h
  · next hw => exact ⟨hw, (Except.ok.inj h).symm⟩
  · cases h

/-- What is written for a verification is its object, of which only the reads may be nested too
deep to be read. -/
theorem written_eq_ok {v : Verification} {d : Json} (h : v.written = .ok d)
    (hprevious : ∀ u ∈ v.previous, u.payload.Legible) (hpayload : v.observation.payload.Legible) :
    ∃ previous payload before after, v.Encoded previous payload before after ∧
      d = v.object (previous.map Json.sorted) payload.sorted before after ∧
      (Json.Restored (Json.depthLimit - 2) before → Json.Restored (Json.depthLimit - 2) after →
        Json.Restored Json.depthLimit d) := by
  obtain ⟨previous, hupdates, h⟩ := eq_ok_of_bind_eq_ok h
  obtain ⟨payload, hencode, h⟩ := eq_ok_of_bind_eq_ok h
  obtain ⟨arr, harr, h⟩ := eq_ok_of_bind_eq_ok h
  obtain ⟨context, hcontext, h⟩ := eq_ok_of_bind_eq_ok h
  obtain ⟨hwritable, rfl⟩ := eq_of_writable harr
  obtain ⟨after, hafter, hcontext⟩ := eq_ok_of_bind_eq_ok hcontext
  obtain ⟨before, hbefore, hcontext⟩ := eq_ok_of_bind_eq_ok hcontext
  obtain ⟨raw, hraw, hcontext⟩ := eq_ok_of_bind_eq_ok hcontext
  obtain ⟨valueAfter, hvalueAfter, hcontext⟩ := eq_ok_of_bind_eq_ok hcontext
  obtain ⟨valueBefore, hvalueBefore, hcontext⟩ := eq_ok_of_bind_eq_ok hcontext
  cases hcontext
  cases h
  obtain ⟨hwritableAfter, rfl⟩ := eq_of_writable hafter
  obtain ⟨hwritableBefore, rfl⟩ := eq_of_writable hbefore
  obtain ⟨hwritablePayload, rfl⟩ := eq_of_writable hraw
  refine ⟨previous, raw, valueBefore, valueAfter,
    ⟨hupdates, hencode, hvalueBefore, hvalueAfter⟩, by rw [Json.sorted_arr]; rfl, ?_⟩
  intro hrestoredBefore hrestoredAfter
  have hlisted : Json.Restored (Payload.depthLimit + 2) (.arr previous) := by
    refine .arr fun d hd => ?_
    obtain ⟨u, hu, hd'⟩ := exists_of_mem_mapM hupdates hd
    exact Update.restored_of_toJson (hprevious u hu) hd' (Json.isWritable_arr_iff.1 hwritable d hd)
  have hrestoredPayload := (hpayload.restored_of_encode hencode hwritablePayload).sorted
  refine .obj (by simp [Named.Distinct]) ?_
  simp only [List.forall_mem_cons]
  refine ⟨.str, (hlisted.sorted).mono (by decide), .str, .obj (by simp [Named.Distinct]) ?_,
    List.forall_mem_nil _⟩
  simp only [List.forall_mem_cons]
  exact ⟨.int hwritableAfter, .int hwritableBefore, hrestoredPayload.mono (by decide), hrestoredAfter,
    hrestoredBefore, List.forall_mem_nil _⟩

/-- A line tells what has been verified. -/
theorem tells_of_line {v : Verification} {text : String} (h : v.line = .ok text)
    (hprevious : ∀ u ∈ v.previous, u.payload.Legible) (hpayload : v.observation.payload.Legible) :
    v.Tells text := by
  obtain ⟨d, hd, h⟩ := eq_ok_of_bind_eq_ok h
  cases h
  obtain ⟨previous, payload, before, after, hencoded, rfl, hrestored⟩ :=
    written_eq_ok hd hprevious hpayload
  refine ⟨?_, previous, payload, before, after, hencoded, fun hbefore hafter => ?_⟩
  · rw [String.toList_ofList]
    exact Json.isPlain_write _
  · rw [String.toList_ofList]
    exact (hrestored hbefore hafter).parse_write

end Verification

/-! ## What an evaluation has judged -/

namespace Evaluation

/-- What an evaluation is asked for. -/
def request (x : Evaluation σ) : Text × Rule × Payload := (x.key, x.rule, x.payload)

/-- What an evaluation has judged: an update of its payload, which is recorded after the updates
that it was judged against, and those are none after a reset. -/
structure Records (x : Evaluation σ) : Prop where
  key : x.verification.key = x.key
  rule : x.verification.rule = x.rule
  payload : x.verification.observation.payload = x.payload
  previous : x.verification.previous =
    if x.wasReset then [] else x.start.history.load ⟨x.key, x.rule.id⟩
  recorded : ∃ u, x.verification.observation.update = .ok u ∧
    x.finish.history.load ⟨x.key, x.rule.id⟩ = x.verification.previous ++ [u]

/-- What is known of an evaluation and its line. -/
structure Reported (a : Auditor σ) (x : Evaluation σ) : Prop where
  evaluated : x.Of a
  records : x.Records
  isSome_line_iff : x.line.isSome ↔ x.verification.holds = .ok false
  line : ∀ line ∈ x.line, x.verification.Tells line

variable {a : Auditor σ} {x : Evaluation σ}

theorem Of.records (h : x.Of a) : x.Records := by
  have hpayload : ∀ {w w' : σ} {o : Observation} {u : Update},
      a.Attempt x.rule x.key x.payload w w' o u → o.payload = x.payload := fun hattempt =>
    (Observation.update_eq_ok hattempt.update).1.symm.trans hattempt.payload
  have hfinish := h.finish_history
  have hevaluates := h.evaluates
  obtain ⟨rule, key, payload, start, verification, middle, line, finish⟩ := x
  dsimp only at hfinish hevaluates hpayload
  cases hevaluates with
  | @clean w₀ o u _ acquired attempt unambiguous history counted =>
    have hclashes : ¬start.statistics.clashes < middle.statistics.clashes := by
      rw [counted.clashes]
      exact Nat.lt_irrefl _
    refine ⟨rfl, rfl, hpayload attempt, (if_neg hclashes).symm, u, attempt.update, ?_⟩
    rw [hfinish, history, History.load_append, if_pos rfl]
  | @retried w₀ w₁ w₂ o₁ o₂ u₁ u₂ _ acquired first ambiguous cleared second history counted =>
    have hclashes : start.statistics.clashes < middle.statistics.clashes := by
      rw [counted.clashes]
      exact Nat.lt_succ_self _
    refine ⟨rfl, rfl, hpayload second, (if_pos hclashes).symm, u₂, second.update, ?_⟩
    rw [hfinish, history, History.load_append, if_pos rfl, History.load_clear, if_pos rfl]

/-- An evaluation from a history that can be read again has a line that can be read. -/
theorem Of.reported (h : x.Of a) (haccepts : x.rule.kind.Accepts x.payload)
    (hlegible : x.start.history.Legible) : x.Reported a := by
  have hrecords := h.records
  refine ⟨h, hrecords, h.isSome_line_iff, fun line hline => ?_⟩
  obtain ⟨-, hnone⟩ | ⟨-, text, htext, hsome⟩ := (Auditor.run_judge_ok h.judged).1
  · cases hnone.symm.trans hline
  · cases hsome.symm.trans hline
    refine Verification.tells_of_line htext (fun u hu => ?_) ?_
    · rw [hrecords.previous] at hu
      split at hu
      · cases hu
      · exact hlegible _ u hu
    · rw [hrecords.payload]
      exact haccepts.legible

end Evaluation

/-! ## Events one after another -/

/-- The payload that an event has for a rule. -/
def Event.payload (e : Event) (r : Rule) : Payload :=
  .raw ((e.updateFor r.id).toOption.getD .null)

namespace Auditor

variable {a : Auditor σ}

/-- The evaluations of events that are processed one after another. -/
def evaluationsAll (a : Auditor σ) : List Event → Session σ → List (Evaluation σ)
  | [], _ => []
  | e :: rest, s => a.evaluations e s ++ a.evaluationsAll rest ((a.process e).run s).2

/-- The diagnostic lines of events that are processed one after another. -/
def linesAll (a : Auditor σ) (events : List Event) (s : Session σ) : List String :=
  (a.evaluationsAll events s).filterMap (·.line)

/-- What events ask for: one evaluation for every rule. -/
def requests (a : Auditor σ) (events : List Event) : List (Text × Rule × Payload) :=
  events.flatMap fun e => a.rules.map fun r => (e.key, r, e.payload r)

/-- The evaluations for some rules are those of the first of them. -/
theorem requests_evaluationsOf (key : Text) (pairs : List (Rule × Json)) (s : Session σ) :
    (a.evaluationsOf key pairs s).map (·.request) <+:
      pairs.map fun pair => (key, pair.1, .raw pair.2) := by
  induction pairs generalizing s with
  | nil => exact List.prefix_rfl
  | cons pair rest ih =>
    obtain ⟨r, raw⟩ := pair
    unfold evaluationsOf
    split
    · exact List.nil_prefix
    · split
      · exact List.nil_prefix
      · exact (List.prefix_cons_inj _).2 (ih _)

/-- The payloads of an accepted event are those that it has for the rules. -/
theorem requests_of_prepare {e : Event} {raws : List Json} (h : a.prepare e = .ok raws) :
    ((a.rules.zip raws).map fun pair => (e.key, pair.1, Payload.raw pair.2)) =
      a.rules.map fun r => (e.key, r, e.payload r) := by
  replace h := mapM_eq_ok_iff.1 h
  generalize a.rules = rules at h
  induction h with
  | nil => rfl
  | @cons r raw rules raws hfirst _ ih =>
    obtain ⟨found, hfound, hfirst⟩ := eq_ok_of_bind_eq_ok hfirst
    obtain ⟨⟨⟩, -, hfirst⟩ := eq_ok_of_bind_eq_ok hfirst
    cases hfirst
    rw [List.zip_cons_cons, List.map_cons, List.map_cons, ih, Event.payload, hfound]
    rfl

/-- An event that is processed has one evaluation for every rule. -/
theorem requests_evaluations {e : Event} {s t : Session σ} {lines : List String}
    (h : (a.process e).run s = (.ok lines, t)) :
    (a.evaluations e s).map (·.request) = a.rules.map fun r => (e.key, r, e.payload r) := by
  have hkept : a.KeptByEvaluations fun _ _ => True := fun _ _ _ _ _ => trivial
  obtain ⟨-, hrules, -⟩ := run_process_ok hkept h trivial
  obtain ⟨raws, s₁, hprepared, -⟩ := Act.run_bind_eq_ok h
  obtain ⟨hraws, -⟩ := Act.run_lift_eq_ok hprepared
  have hlength := congrArg List.length hrules
  rw [List.length_map] at hlength
  rw [← requests_of_prepare hraws]
  simp only [evaluations, hraws] at hlength ⊢
  refine (requests_evaluationsOf _ _ _).eq_of_length ?_
  rw [List.length_map, List.length_map, hlength, (pairs_of_prepare hraws).2.2]

/-! ## Failures are counted -/

theorem run_judge_failures {v : Verification} {s t : Session σ} {line : Option String}
    (h : (judge v).run s = (.ok line, t)) : t.failures = s.failures + line.toList.length := by
  obtain ⟨holds, s₁, hlifted, h⟩ := Act.run_bind_eq_ok h
  obtain ⟨-, rfl⟩ := Act.run_lift_eq_ok hlifted
  cases holds with
  | true =>
    obtain ⟨rfl, rfl⟩ := Act.run_pure_eq_ok h
    rfl
  | false =>
    obtain ⟨⟨⟩, s₂, hcounted, h⟩ := Act.run_bind_eq_ok h
    obtain ⟨⟨⟩, s₃, hreported, h⟩ := Act.run_bind_eq_ok h
    obtain ⟨text, s₄, hwritten, h⟩ := Act.run_bind_eq_ok h
    obtain ⟨rfl, rfl⟩ := Act.run_pure_eq_ok h
    obtain ⟨-, rfl⟩ := Prod.mk.inj hcounted
    obtain ⟨log, rfl⟩ := Session.run_report_ok hreported
    obtain ⟨-, rfl⟩ := Act.run_lift_eq_ok hwritten
    rfl

/-- An evaluation counts no failure, whatever comes of it. -/
theorem evaluate_keeps_failures (a : Auditor σ) (r : Rule) (key : Text) (p : Payload) (n : Nat) :
    Act.Keeps (fun s : Session σ => s.failures = n) (a.evaluate r key p) :=
  PartsKeep.evaluate
    { acquire := fun _ hs => hs
      clear := fun _ hs => hs
      observe := fun _ hs => hs
      report := fun _ _ hs => hs
      statistics := fun _ _ hs => hs
      forget := fun _ hs => hs
      record := fun _ _ _ hs => hs }

theorem run_judgeAll_failures {key : Text} {pairs : List (Rule × Json)} {s t : Session σ}
    {lines : List String} (h : (a.judgeAll key pairs).run s = (.ok lines, t)) :
    t.failures = s.failures + lines.length := by
  induction pairs generalizing s lines with
  | nil =>
    obtain ⟨rfl, rfl⟩ := Act.run_pure_eq_ok h
    rfl
  | cons pair rest ih =>
    obtain ⟨v, s₁, hevaluated, h⟩ := Act.run_bind_eq_ok h
    obtain ⟨line, s₂, hjudged, h⟩ := Act.run_bind_eq_ok h
    obtain ⟨others, s₃, hrest, h⟩ := Act.run_bind_eq_ok h
    obtain ⟨rfl, rfl⟩ := Act.run_pure_eq_ok h
    have hfirst := (a.evaluate_keeps_failures _ _ _ s.failures).of_run hevaluated rfl
    rw [ih hrest, run_judge_failures hjudged, hfirst, List.length_append, Nat.add_assoc]

theorem run_process_failures {e : Event} {s t : Session σ} {lines : List String}
    (h : (a.process e).run s = (.ok lines, t)) : t.failures = s.failures + lines.length := by
  obtain ⟨raws, s₁, hprepared, h⟩ := Act.run_bind_eq_ok h
  obtain ⟨number, s₂, hcounted, h⟩ := Act.run_bind_eq_ok h
  obtain ⟨found, s₃, hjudged, h⟩ := Act.run_bind_eq_ok h
  obtain ⟨⟨⟩, s₄, hreported, h⟩ := Act.run_bind_eq_ok h
  obtain ⟨rfl, rfl⟩ := Act.run_pure_eq_ok h
  obtain ⟨-, rfl⟩ := Act.run_lift_eq_ok hprepared
  obtain ⟨-, rfl⟩ := Prod.mk.inj hcounted
  obtain ⟨log, rfl⟩ := Session.run_report_ok hreported
  have hfailures := run_judgeAll_failures hjudged
  exact hfailures

/-! ## Runs -/

theorem evaluationsAll_cons {e : Event} {s t : Session σ} {lines : List String}
    (h : (a.process e).run s = (.ok lines, t)) (rest : List Event) :
    a.evaluationsAll (e :: rest) s = a.evaluations e s ++ a.evaluationsAll rest t := by
  rw [evaluationsAll, h]

theorem linesAll_cons {e : Event} {s t : Session σ} {lines : List String}
    (h : (a.process e).run s = (.ok lines, t)) (rest : List Event) :
    a.linesAll (e :: rest) s = (a.evaluations e s).filterMap (·.line) ++ a.linesAll rest t := by
  rw [linesAll, evaluationsAll_cons h, List.filterMap_append, linesAll]

/-- What is known of events that have all been processed: their lines are those of their
evaluations, one for every event and rule, and every line is a failure. -/
theorem run_processAll_ok {events : List Event} {s t : Session σ} {lines : List String}
    (h : (a.processAll events).run s = (.ok lines, t)) (hs : s.history.Legible) :
    lines = a.linesAll events s ∧
      (a.evaluationsAll events s).map (·.request) = a.requests events ∧
      (∀ x ∈ a.evaluationsAll events s, x.Reported a) ∧
      t.failures = s.failures + lines.length := by
  induction events generalizing s lines with
  | nil =>
    obtain ⟨rfl, rfl⟩ := Act.run_pure_eq_ok h
    exact ⟨rfl, rfl, List.forall_mem_nil _, rfl⟩
  | cons e rest ih =>
    obtain ⟨found, s₁, hfound, h⟩ := Act.run_bind_eq_ok h
    obtain ⟨more, s₂, hmore, h⟩ := Act.run_bind_eq_ok h
    obtain ⟨rfl, rfl⟩ := Act.run_pure_eq_ok h
    have hkept := a.keeps_legible.keptByEvaluations
    obtain ⟨rfl, -, -, hlegible⟩ := run_process_ok hkept hfound ⟨trivial, hs⟩
    obtain ⟨rfl, hrequests, hreported, hfailures⟩ := ih hmore hlegible
    rw [evaluationsAll_cons hfound, List.map_append, hrequests, requests_evaluations hfound]
    refine ⟨(linesAll_cons hfound rest).symm, rfl,
      List.forall_mem_append.2 ⟨fun x hx => ?_, hreported⟩, ?_⟩
    · obtain ⟨hof, -, -, haccepts, -, hstart⟩ := of_mem_evaluations hkept ⟨trivial, hs⟩ hx
      exact hof.reported haccepts hstart
    · rw [hfailures, run_process_failures hfound, List.length_append, Nat.add_assoc]

end Auditor
end ExpiryAudit
