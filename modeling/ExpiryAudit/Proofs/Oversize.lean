import ExpiryAudit.Proofs.Failure
import ExpiryAudit.Proofs.Judgement
import ExpiryAudit.Proofs.Lockstep
import ExpiryAudit.Proofs.SavedHistory
import ExpiryAudit.Proofs.Serving

/-!
# Numbers that are too large

With a reliable host and clock, events that are accepted are processed to their end, unless
a number has too many digits to be written or an average is too large.
-/
namespace ExpiryAudit

variable {σ : Type}

/-- A number has too many digits to be written, or an average is too large. -/
def Fault.IsOversize (f : Fault) : Prop := f = .unwritable ∨ f = .quotientOverflow

/-! ## What is written -/

theorem Json.eq_of_writable_error {v : Json} {f : Fault} (h : v.writable = .error f) :
    f = .unwritable := by
  unfold writable writableIf at h
  split at h <;> cases h
  rfl

theorem Reading.eq_of_written_error {v : Json} {f : Fault} (h : (plain v).written = .error f) :
    f = .unwritable := by
  rcases eq_error_of_bind_eq_error h with h | ⟨_, -, h⟩
  · exact Json.eq_of_writable_error h
  · cases h

/-- Reads that are values fail to be written only for their numbers. -/
theorem Observation.eq_of_written_error {o : Observation} {payload before after : Json} {f : Fault}
    (hbefore : o.valueBefore = .plain before) (hafter : o.valueAfter = .plain after)
    (h : o.written payload = .error f) : f = .unwritable := by
  rcases eq_error_of_bind_eq_error h with h | ⟨_, -, h⟩
  · exact Json.eq_of_writable_error h
  rcases eq_error_of_bind_eq_error h with h | ⟨_, -, h⟩
  · exact Json.eq_of_writable_error h
  rcases eq_error_of_bind_eq_error h with h | ⟨_, -, h⟩
  · exact Json.eq_of_writable_error h
  rcases eq_error_of_bind_eq_error h with h | ⟨_, -, h⟩
  · exact Reading.eq_of_written_error (hafter ▸ h)
  rcases eq_error_of_bind_eq_error h with h | ⟨_, -, h⟩
  · exact Reading.eq_of_written_error (hbefore ▸ h)
  · cases h

theorem Log.eq_of_add_error {e : LogEntry} {l l' : Log} {f : Fault}
    (h : (add e).run l = (.error f, l')) : f = .unwritable := by
  simp only [add, Act.run] at h
  split at h
  · cases h
  · split at h <;> cases h
    rfl

theorem Statistics.eq_of_summary_error {s : Statistics} {f : Fault} (h : s.summary = .error f) :
    f = .quotientOverflow := by
  have haverage : ∀ total, s.perUpdate total = .error f → f = .quotientOverflow := by
    intro total h
    unfold perUpdate at h
    split at h
    · cases h
    · split at h <;> cases h
      rfl
  rcases eq_error_of_bind_eq_error h with h | ⟨average, -, h⟩
  · exact haverage _ h
  rcases eq_error_of_bind_eq_error h with h | ⟨ratio, -, h⟩
  · exact haverage _ h
  · cases h

/-! ## Verifications of complete observations -/

/-- An update whose payload the rule takes has been observed, after others of that kind. -/
structure Verification.Complete (v : Verification) : Prop where
  lifetime : ∃ amount, v.rule.lifetime.IsWhole amount
  previous : ∀ u ∈ v.previous, v.rule.kind.Accepts u.payload
  observation : v.observation.Complete v.observation.payload
  payload : v.rule.kind.Accepts v.observation.payload

namespace Verification.Complete

variable {v : Verification} (h : v.Complete)

include h

theorem holds_ok : ∃ holds, v.holds = .ok holds := by
  obtain ⟨amount, hlifetime⟩ := h.lifetime
  obtain ⟨u, hu⟩ := h.observation.update
  have hpayload : v.rule.kind.Accepts u.payload := (Observation.update_eq_ok hu).1 ▸ h.payload
  have hall : ∀ x ∈ v.previous ++ [u], v.rule.kind.Accepts x.payload :=
    List.forall_mem_append.2 ⟨h.previous, by simpa using hpayload⟩
  obtain ⟨before, hbefore, -⟩ := Rule.expected_spec hlifetime h.previous v.observation.before
  obtain ⟨after, hafter, -⟩ := Rule.expected_spec hlifetime hall v.observation.after
  exact ⟨_, Rule.verify_eq_ok hu hbefore hafter⟩

theorem eq_of_line_error {f : Fault} (hline : v.line = .error f) : f = .unwritable := by
  obtain ⟨before, hbefore⟩ := h.observation.before
  obtain ⟨after, hafter⟩ := h.observation.after
  rcases eq_error_of_bind_eq_error hline with hline | ⟨d, -, hline⟩
  swap
  · cases hline
  -- Payloads are encoded, and everything else is written as it is.
  rcases eq_error_of_bind_eq_error hline with hline | ⟨previous, -, hline⟩
  · obtain ⟨u, hu, hupdate⟩ := exists_of_mapM_eq_error hline
    rcases eq_error_of_bind_eq_error hupdate with hencode | ⟨d, -, hupdate⟩
    · cases (h.previous u hu).encode_eq.symm.trans hencode
    · cases hupdate
  rcases eq_error_of_bind_eq_error hline with hencode | ⟨payload, -, hline⟩
  · cases h.payload.encode_eq.symm.trans hencode
  rcases eq_error_of_bind_eq_error hline with hline | ⟨d, -, hline⟩
  · exact Json.eq_of_writable_error hline
  rcases eq_error_of_bind_eq_error hline with hline | ⟨d, -, hline⟩
  · exact Observation.eq_of_written_error hbefore hafter hline
  · cases hline

end Verification.Complete

/-! ## Lines that can be written -/

theorem Json.writable_eq_ok {v : Json} (h : v.isWritable = true) : v.writable = .ok v := if_pos h

theorem Reading.written_eq_ok {x : Reading} {v : Json} (hx : x = .plain v)
    (h : x.isWritable = true) : x.written = .ok v.sorted := by
  subst hx
  exact bind_eq_ok (Json.writable_eq_ok h) rfl

namespace Verification

/-- No number of the verification has too many digits. -/
structure IsWritable (v : Verification) : Prop where
  previous : ∀ u ∈ v.previous, u.payload.json.isWritable = true ∧ u.window.isWritable = true
  payload : v.observation.payload.json.isWritable = true
  before : Text.isWritable v.observation.before = true
  after : Text.isWritable v.observation.after = true
  valueBefore : v.observation.valueBefore.isWritable = true
  valueAfter : v.observation.valueAfter.isWritable = true

variable {v : Verification}

theorem Complete.exists_written (h : v.Complete) (hv : v.IsWritable) :
    ∃ d, v.observation.written v.observation.payload.json = .ok d := by
  obtain ⟨before, hbefore⟩ := h.observation.before
  obtain ⟨after, hafter⟩ := h.observation.after
  have hvalueBefore : v.observation.valueBefore.written = .ok before.sorted :=
    Reading.written_eq_ok hbefore hv.valueBefore
  have hvalueAfter : v.observation.valueAfter.written = .ok after.sorted :=
    Reading.written_eq_ok hafter hv.valueAfter
  exact ⟨_, bind_eq_ok (Json.writable_eq_ok hv.after) (bind_eq_ok (Json.writable_eq_ok hv.before)
    (bind_eq_ok (Json.writable_eq_ok hv.payload)
      (bind_eq_ok hvalueAfter (bind_eq_ok hvalueBefore rfl))))⟩

/-- A verification whose numbers can be written has a line. -/
theorem Complete.exists_line (h : v.Complete) (hv : v.IsWritable) : ∃ line, v.line = .ok line := by
  obtain ⟨observation, hobservation⟩ := h.exists_written hv
  have hprevious : v.previous.mapM (fun u => u.toJson v.rule.kind.encode) =
      .ok (v.previous.map fun u => Update.saved u.payload.json u.window) :=
    mapM_eq_ok_map fun u hu => bind_eq_ok (h.previous u hu).encode_eq rfl
  have hsaved : (Json.arr (v.previous.map fun u =>
      Update.saved u.payload.json u.window)).isWritable = true := by
    refine Json.isWritable_arr_iff.2 fun d hd => ?_
    obtain ⟨u, hu, rfl⟩ := List.mem_map.1 hd
    exact Update.isWritable_saved (hv.previous u hu).1 (hv.previous u hu).2
  have hwritten : v.written = .ok (.obj [("key", .str v.key), ("prev_updates", _),
      ("rule_id", .str v.rule.id), ("update_context", observation)]) :=
    bind_eq_ok hprevious (bind_eq_ok h.payload.encode_eq (bind_eq_ok (Json.writable_eq_ok hsaved)
      (bind_eq_ok hobservation rfl)))
  exact ⟨_, bind_eq_ok hwritten rfl⟩

end Verification

/-! ## Events that are processed -/

namespace Session

theorem eq_of_report_error {entry : LogEntry} {f : Fault} {s t : Session σ}
    (h : (report entry).run s = (.error f, t)) : f = .unwritable := by
  rw [report, Act.run_within] at h
  exact Log.eq_of_add_error (Prod.ext (Prod.mk.inj h).1 rfl)

variable {I : σ → Prop} {P : History → Prop}

/-- An act that returns in the world returns in a session. -/
theorem ends_inWorld {α : Type} {a : Act σ α} {R : α → Prop}
    (h : Act.Returns I a fun x w => R x ∧ I w) :
    Act.Ends (Auditor.Keeps.Kept I P) (inWorld a)
      (fun x s => R x ∧ Auditor.Keeps.Kept I P s) Fault.IsOversize := by
  intro s hs
  obtain ⟨x, w, hrun, hx, hw⟩ := h s.world hs.1
  exact .inl ⟨x, { s with world := w }, by rw [inWorld, Act.run_within, hrun], hx, hw, hs.2⟩

theorem ends_report (entry : LogEntry) :
    Act.Ends (Auditor.Keeps.Kept I P) (report entry)
      (fun _ => Auditor.Keeps.Kept I P) Fault.IsOversize :=
  .of_keeps (Act.Keeps.within fun _ _ hs => hs) fun _ _ _ h => .inl (eq_of_report_error h)

theorem ends_reportAny (entry : Option LogEntry) :
    Act.Ends (Auditor.Keeps.Kept I P) (reportAny entry)
      (fun _ => Auditor.Keeps.Kept I P) Fault.IsOversize := by
  cases entry with
  | none => exact .pure fun _ hs => hs
  | some entry => exact ends_report entry

theorem ends_count (clash : Bool) (length : Nat) :
    Act.Ends (Auditor.Keeps.Kept I P) (count clash length)
      (fun _ => Auditor.Keeps.Kept I P) Fault.IsOversize :=
  .of_keeps (count_keeps (fun _ => Act.Keeps.within fun _ _ hs => hs) (fun _ _ hs => hs) _ _)
    fun _ _ _ h => .inr (Statistics.eq_of_summary_error (run_count_error h).1)

end Session

namespace Auditor

variable {a : Auditor σ} {moves : σ → σ → Prop} {w₀ : σ} {r : Rule} {key : Text} {p : Payload}

/-- The world is one that a run comes to, and what has been recorded are payloads that their
rules take. -/
abbrev Sound (a : Auditor σ) (moves : σ → σ → Prop) (w₀ : σ) : Session σ → Prop :=
  Keeps.Kept (a.environment.Comes moves w₀) a.RecordsAccepted

theorem ends_modify {K : Session σ → Prop} {f : Session σ → Session σ} {E : Fault → Prop}
    (hf : ∀ s, K s → K (f s)) : Act.Ends K (Act.modify f) (fun _ => K) E :=
  .of_keeps (Act.Keeps.modify hf) fun _ _ _ h => nomatch h

theorem ends_record (hlifetime : ∃ amount, r.lifetime.IsWhole amount) (hp : r.kind.Accepts p)
    {previous : List Update} {o : Observation}
    (hprevious : ∀ u ∈ previous, r.kind.Accepts u.payload) (ho : o.Complete p) (clash : Bool) :
    Act.Ends (a.Sound moves w₀) (record r key clash previous o)
      (fun v s => v.Complete ∧ a.Sound moves w₀ s) Fault.IsOversize := by
  obtain ⟨u, hu⟩ := ho.update
  obtain rfl := ho.payload
  have hpayload : r.kind.Accepts u.payload := (Observation.update_eq_ok hu).1 ▸ hp
  refine (Session.ends_count _ _).bind fun _ => ?_
  refine (Act.Ends.of_returns (.lift hu)).bind fun _ => .given ?_
  rintro rfl
  refine (ends_modify fun s hs => ⟨hs.1, hs.2.append hpayload⟩).bind fun _ => ?_
  exact .pure fun s hs => ⟨⟨hlifetime, hprevious, ho, hp⟩, hs⟩

/-- A judgement fails only for a verification that does not hold, with a number that has too
many digits. -/
theorem run_judge_error {v : Verification} (hv : v.Complete) {s t : Session σ} {f : Fault}
    (h : (judge v).run s = (.error f, t)) :
    f = .unwritable ∧ v.holds = .ok false ∧ ¬v.IsWritable := by
  obtain ⟨holds, hholds⟩ := hv.holds_ok
  rcases Act.run_bind_eq_error h with h | ⟨found, s₁, hlifted, h⟩
  · rw [Act.run_lift, hholds] at h
    cases h
  obtain ⟨hfound, rfl⟩ := Act.run_lift_eq_ok hlifted
  cases found with
  | true => cases h
  | false =>
    simp only [Bool.false_eq_true, if_false] at h
    rcases Act.run_bind_eq_error h with h | ⟨⟨⟩, s₂, -, h⟩
    · cases h
    rcases Act.run_bind_eq_error h with h | ⟨⟨⟩, s₃, -, h⟩
    · refine ⟨Session.eq_of_report_error h, hfound, fun hwritable => ?_⟩
      have hentry := (Session.run_report_error h).1
      rw [LogEntry.isWritable, hwritable.valueBefore, hwritable.valueAfter] at hentry
      cases hentry
    rcases Act.run_bind_eq_error h with h | ⟨line, s₄, -, h⟩
    · rw [Act.run_lift] at h
      have hline : v.line = .error f := (Prod.mk.inj h).1
      refine ⟨hv.eq_of_line_error hline, hfound, fun hwritable => ?_⟩
      obtain ⟨line, hok⟩ := hv.exists_line hwritable
      cases hline.symm.trans hok
    · cases h

/-- A verification that can be decided is judged. -/
theorem ends_judge {I : σ → Prop} {P : History → Prop} {v : Verification} (hv : v.Complete) :
    Act.Ends (Keeps.Kept I P) (judge v) (fun _ => Keeps.Kept I P) Fault.IsOversize :=
  .of_keeps (judge_keeps (Session.lasting_core fun c => I c.1 ∧ P c.2.1) v)
    fun _ _ _ h => .inl (run_judge_error hv h).1

theorem oversize_of_judge_error {v : Verification} (hv : v.Complete) {s t : Session σ} {f : Fault}
    (h : (judge v).run s = (.error f, t)) : f.IsOversize := .inl (run_judge_error hv h).1

section Reliable

variable (henv : a.environment.Reliable moves w₀)

include henv

theorem ends_observe (hp : r.kind.Accepts p) :
    Act.Ends (a.Sound moves w₀) (Session.inWorld (r.observe a.environment (r.handle key) p))
      (fun o s => o.Complete p ∧ a.Sound moves w₀ s) Fault.IsOversize :=
  Session.ends_inWorld (Rule.observes henv hp)

theorem ends_retry (hp : r.kind.Accepts p) :
    Act.Ends (a.Sound moves w₀) (a.retry r key p)
      (fun o s => o.Complete p ∧ a.Sound moves w₀ s) Fault.IsOversize := by
  have hclear := (henv.serves.clear (r.handle key)).keeping fun _ hw => .clear _ hw
  refine (Session.ends_inWorld (R := fun _ => True) hclear).bind fun _ => .given fun _ => ?_
  refine (ends_modify fun s hs => ⟨hs.1, hs.2.clear _⟩).bind fun _ => ?_
  refine (ends_observe henv hp).bind fun o => .given fun ho => ?_
  exact (Session.ends_report _).bind fun _ => .pure fun s hs => ⟨ho, hs⟩

/-- An evaluation of a payload that the rule takes comes to a verification that can be decided. -/
theorem ends_evaluate (hr : r ∈ a.rules) (hlifetime : ∃ amount, r.lifetime.IsWhole amount)
    (hp : r.kind.Accepts p) :
    Act.Ends (a.Sound moves w₀) (a.evaluate r key p)
      (fun v s => v.Complete ∧ a.Sound moves w₀ s) Fault.IsOversize := by
  have hacquire := (henv.serves.acquire (r.handle key)).keeping fun _ hw => .acquire _ hw
  refine (Session.ends_inWorld (R := fun _ => True) hacquire).bind fun _ => .given fun _ => ?_
  -- What is loaded are payloads that the rule takes.
  refine .bind (R := fun previous s =>
    (∀ u ∈ previous, r.kind.Accepts u.payload) ∧ a.Sound moves w₀ s)
    (.of_returns fun s hs => ⟨_, s, rfl, hs.2 r hr key, hs⟩)
    fun previous => .given fun hprevious => ?_
  refine (ends_observe henv hp).bind fun first => .given fun hfirst => ?_
  obtain ⟨u, hu⟩ := hfirst.update
  refine (Act.Ends.of_returns (.lift hu)).bind fun attempt => .given fun _ => ?_
  refine (Session.ends_reportAny _).bind fun _ => ?_
  dsimp only
  split
  · refine (ends_retry henv hp).bind fun second => .given fun hsecond => ?_
    rw [pure_bind]
    exact ends_record hlifetime hp (List.forall_mem_nil _) hsecond _
  · rw [pure_bind]
    exact ends_record hlifetime hp hprevious hfirst _

variable (hlifetimes : ∀ r ∈ a.rules, ∃ amount, r.lifetime.IsWhole amount)

include hlifetimes

theorem ends_judgeAll {pairs : List (Rule × Json)}
    (hpairs : ∀ x ∈ pairs, x.1 ∈ a.rules ∧ x.1.kind.Accepts (.raw x.2)) :
    Act.Ends (a.Sound moves w₀) (a.judgeAll key pairs) (fun _ => a.Sound moves w₀)
      Fault.IsOversize := by
  induction pairs with
  | nil => exact .pure fun s hs => hs
  | cons pair rest ih =>
    obtain ⟨⟨hr, hp⟩, hrest⟩ := List.forall_mem_cons.1 hpairs
    refine (ends_evaluate henv hr (hlifetimes _ hr) hp).bind fun v => .given fun hv => ?_
    refine (ends_judge hv).bind fun line => (ih hrest).bind fun lines => ?_
    exact .pure fun s hs => hs

/-- An accepted event is processed to its end, unless a number is too large. -/
theorem ends_process {e : Event} (he : ∃ raws, a.prepare e = .ok raws) :
    Act.Ends (a.Sound moves w₀) (a.process e) (fun _ => a.Sound moves w₀) Fault.IsOversize := by
  obtain ⟨raws, hraws⟩ := he
  obtain ⟨-, haccepts⟩ := accepts_of_prepare hraws
  have hcount : Act.Ends (a.Sound moves w₀) Session.countEvent (fun _ => a.Sound moves w₀)
      Fault.IsOversize := .of_returns fun s hs => ⟨_, _, rfl, hs⟩
  refine (Act.Ends.of_returns (.lift hraws)).bind fun found => .given ?_
  rintro rfl
  refine hcount.bind fun number => ?_
  refine (ends_judgeAll henv hlifetimes fun x hx =>
    ⟨(List.of_mem_zip hx).1, haccepts x hx⟩).bind fun lines => ?_
  exact (Session.ends_report _).bind fun _ => .pure fun s hs => hs

/-- Accepted events are processed to their end, unless a number is too large. -/
theorem ends_processAll {events : List Event} (h : ∀ e ∈ events, ∃ raws, a.prepare e = .ok raws) :
    Act.Ends (a.Sound moves w₀) (a.processAll events) (fun _ => a.Sound moves w₀)
      Fault.IsOversize := by
  induction events with
  | nil => exact .pure fun s hs => hs
  | cons e rest ih =>
    obtain ⟨he, hrest⟩ := List.forall_mem_cons.1 h
    refine (ends_process henv hlifetimes he).bind fun found => (ih hrest).bind fun more => ?_
    exact .pure fun s hs => hs

end Reliable
end Auditor
end ExpiryAudit
