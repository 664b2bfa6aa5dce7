import ExpiryAudit.Proofs.Averages
import ExpiryAudit.Proofs.Oversize

/-!
# Evaluations put together

An evaluation whose acts on the world are known: they are taken from the world one after
another, and everything else that an evaluation does comes to an end, unless a strict log
refuses a record or the average of a summary is too large.
-/
namespace ExpiryAudit

variable {σ : Type}

namespace Session

theorem run_inWorld_of_run {α : Type} {s : Session σ} {act : Act σ α} {x : Except Fault α} {w : σ}
    (h : act.run s.world = (x, w)) : (inWorld act).run s = (x, { s with world := w }) := by
  rw [inWorld, Act.run_within, h]

/-- A record that can be written is always taken. -/
theorem run_report_of_isWritable {entry : LogEntry} (h : entry.isWritable = true) (s : Session σ) :
    ∃ log, (report entry).run s = (.ok (), { s with log := log }) := by
  refine ⟨{ s.log with recent := entry :: s.log.recent }, ?_⟩
  rw [report, Act.run_within, Log.run_add_of_isWritable h]

/-- A record is taken or left out, unless the log is strict. -/
theorem run_reportAny_cases (entry : Option LogEntry) (s : Session σ) :
    (∃ log, (reportAny entry).run s = (.ok (), { s with log := log })) ∨
      s.log.isStrict = true ∧ ∃ t, (reportAny entry).run s = (.error .unwritable, t) := by
  cases hrun : (reportAny entry).run s with
  | mk result t =>
    cases result with
    | ok x =>
      obtain ⟨log, rfl⟩ := run_reportAny_ok hrun
      exact .inl ⟨log, rfl⟩
    | error f =>
      cases entry with
      | none => cases hrun
      | some entry =>
        cases eq_of_report_error hrun
        refine .inr ⟨?_, t, rfl⟩
        by_contra hlenient
        have htaken := Log.run_add_of_not_isStrict entry (Bool.not_eq_true _ ▸ hlenient)
        have hfault : ((Log.add entry).run s.log).1 = .error .unwritable := (Prod.mk.inj hrun).1
        cases htaken.symm.trans hfault

/-- An update is counted, unless averages may be too large. -/
theorem run_count_cases (clash : Bool) (length : Nat) (s : Session σ) :
    (∃ t, (count clash length).run s = (.ok (), t)) ∨
      ¬(s.statistics.Bounded ∧ length ≤ s.statistics.updates ∧
          s.statistics.updates + 1 < Statistics.capacity) ∧
        ∃ t, (count clash length).run s = (.error .quotientOverflow, t) := by
  cases hrun : (count clash length).run s with
  | mk result t =>
    cases result with
    | ok x => exact .inl ⟨t, rfl⟩
    | error f =>
      cases Statistics.eq_of_summary_error (run_count_error hrun).1
      refine .inr ⟨?_, t, rfl⟩
      rintro ⟨hbounded, hlength, hsize⟩
      obtain ⟨t', hcount⟩ := run_count_bounded clash hbounded hlength hsize
      cases hrun.symm.trans hcount

end Session

namespace Auditor

variable {a : Auditor σ} {r : Rule} {key : Text} {p : Payload} {s : Session σ}

/-- An update that was observed is recorded once it is counted. -/
theorem run_record_of_count (r : Rule) (key : Text) {clash : Bool} {previous : List Update}
    {o : Observation} {u : Update} (hu : o.update = .ok u) {s₁ : Session σ}
    (hcount : (Session.count clash previous.length).run s = (.ok (), s₁)) :
    ∃ t, (record r key clash previous o).run s = (.ok ⟨key, r, previous, o⟩, t) ∧
      t.world = s.world ∧ t.history = s.history.append ⟨key, r.id⟩ u ∧
      s.Counted t clash previous.length := by
  have hlifted : (Act.lift o.update).run s₁ = (.ok u, s₁) := by rw [Act.run_lift, hu]
  have hrun : (record r key clash previous o).run s = (.ok ⟨key, r, previous, o⟩,
      { s₁ with history := s₁.history.append ⟨key, r.id⟩ u }) := by
    rw [record, Act.run_bind_ok hcount, Act.run_bind_ok hlifted]
    rfl
  obtain ⟨-, u', hu', hworld, hhistory, hcounted⟩ := run_record_ok hrun
  cases hu.symm.trans hu'
  exact ⟨_, hrun, hworld, hhistory, hcounted⟩

/-- A second attempt forgets the history of the slot. -/
theorem run_retry_of_observe {w w' : σ} {o : Observation}
    (hclear : (a.environment.host.clear (r.handle key)).run s.world = (.ok (), w))
    (hobserve : (r.observe a.environment (r.handle key) p).run w = (.ok o, w')) :
    ∃ log, (a.retry r key p).run s = (.ok o,
      { s with world := w', history := s.history.clear ⟨key, r.id⟩, log := log }) := by
  have hforgotten : (Session.clearHistory ⟨key, r.id⟩).run { s with world := w } =
      (.ok (), { s with world := w, history := s.history.clear ⟨key, r.id⟩ }) := rfl
  have hobserved : (Session.inWorld (r.observe a.environment (r.handle key) p)).run
      { s with world := w, history := s.history.clear ⟨key, r.id⟩ } =
      (.ok o, { s with world := w', history := s.history.clear ⟨key, r.id⟩ }) :=
    Session.run_inWorld_of_run hobserve
  have hwritable : (LogEntry.reset key r.id).isWritable = true := rfl
  obtain ⟨log, hreported⟩ := Session.run_report_of_isWritable hwritable
    { s with world := w', history := s.history.clear ⟨key, r.id⟩ }
  refine ⟨log, ?_⟩
  rw [retry, Act.run_bind_ok (Session.run_inWorld_of_run hclear), Act.run_bind_ok hforgotten,
    Act.run_bind_ok hobserved, Act.run_bind_ok hreported]
  rfl

/-- How an evaluation ends whose acts on the world all return: with a verification, unless a
strict log refuses the record of the verdict or averages are too large. -/
def EndsWith (a : Auditor σ) (r : Rule) (key : Text) (p : Payload) (s : Session σ)
    (v : Verification) (Q : Session σ → Prop) : Prop :=
  (∃ t, (a.evaluate r key p).run s = (.ok v, t) ∧ Q t) ∨
    ∃ f t, (a.evaluate r key p).run s = (.error f, t) ∧
      (f = .unwritable ∧ s.log.isStrict = true ∨ f = .quotientOverflow ∧
        ¬(s.statistics.Bounded ∧ v.previous.length ≤ s.statistics.updates ∧
          s.statistics.updates + 1 < Statistics.capacity))

/-- With a log that is not strict and averages that are finite an evaluation returns. -/
theorem EndsWith.returns {v : Verification} {Q : Session σ → Prop} (h : a.EndsWith r key p s v Q)
    (hlenient : s.log.isStrict = false) (hbounded : s.statistics.Bounded)
    (hlength : v.previous.length ≤ s.statistics.updates)
    (hsize : s.statistics.updates + 1 < Statistics.capacity) :
    ∃ t, (a.evaluate r key p).run s = (.ok v, t) ∧ Q t := by
  rcases h with h | ⟨f, t, -, ⟨-, hstrict⟩ | ⟨-, hlarge⟩⟩
  · exact h
  · rw [hlenient] at hstrict
    cases hstrict
  · exact absurd ⟨hbounded, hlength, hsize⟩ hlarge

/-- The first attempt is judged, unless a strict log refuses the record of the verdict. -/
theorem run_evaluate_attempted {w₀ w₁ : σ} {o : Observation} {u : Update}
    (hacquire : (a.environment.host.acquire (r.handle key)).run s.world = (.ok (), w₀))
    (hattempt : a.Attempt r key p w₀ w₁ o u) :
    let previous := s.history.load ⟨key, r.id⟩
    let ambiguous := a.detector.isAmbiguous u.window (windows previous)
    (∃ log, (a.evaluate r key p).run s = Act.run (do
        let (previous, o) ← if ambiguous then do
            let o ← a.retry r key p
            pure ([], o)
          else pure (previous, o)
        record r key ambiguous previous o) { s with world := w₁, log := log }) ∨
      s.log.isStrict = true ∧ ∃ t, (a.evaluate r key p).run s = (.error .unwritable, t) := by
  intro previous ambiguous
  obtain ⟨hobserve, hupdate⟩ := hattempt
  have hloaded : (Session.loadHistory ⟨key, r.id⟩).run { s with world := w₀ } =
      (.ok previous, { s with world := w₀ }) := rfl
  have hobserved : (Session.inWorld (r.observe a.environment (r.handle key) p)).run
      { s with world := w₀ } = (.ok o, { s with world := w₁ }) :=
    Session.run_inWorld_of_run hobserve
  have hlifted : (Act.lift o.update).run { s with world := w₁ } =
      (.ok u, { s with world := w₁ }) := by
    rw [Act.run_lift, hupdate]
  rw [evaluate, Act.run_bind_ok (Session.run_inWorld_of_run hacquire), Act.run_bind_ok hloaded,
    Act.run_bind_ok hobserved, Act.run_bind_ok hlifted]
  dsimp only
  rcases Session.run_reportAny_cases
    (a.detector.logOf u.window (a.detector.judge u.window (windows previous)))
    { s with world := w₁ } with ⟨log, hreported⟩ | ⟨hstrict, t, hrefused⟩
  · rw [Act.run_bind_ok hreported]
    exact .inl ⟨log, rfl⟩
  · exact .inr ⟨hstrict, t, Act.run_bind_error hrefused⟩

/-- An evaluation that has come to its end. -/
theorem endsWith_of_record (s' : Session σ) {clash : Bool} {previous : List Update}
    {o : Observation} {u : Update} (hu : o.update = .ok u)
    (hstatistics : s'.statistics = s.statistics)
    (hrun : (a.evaluate r key p).run s = (record r key clash previous o).run s') :
    a.EndsWith r key p s ⟨key, r, previous, o⟩ fun t => t.world = s'.world ∧
      t.history = s'.history.append ⟨key, r.id⟩ u ∧ s.Counted t clash previous.length := by
  rcases Session.run_count_cases clash previous.length s' with ⟨s₁, hcount⟩ | ⟨hlarge, t, hcount⟩
  · obtain ⟨t, hrecorded, hworld, hhistory, hupdates, hclashes, hlength⟩ :=
      run_record_of_count r key hu hcount
    rw [hstatistics] at hupdates hclashes hlength
    exact .inl ⟨t, hrun.trans hrecorded, hworld, hhistory, hupdates, hclashes, hlength⟩
  · rw [hstatistics] at hlarge
    exact .inr ⟨_, t, hrun.trans (Act.run_bind_error hcount), .inr ⟨rfl, hlarge⟩⟩

/-- An evaluation whose first attempt is unambiguous is judged on it. -/
theorem endsWith_of_unambiguous {w₀ w₁ : σ} {o : Observation} {u : Update}
    (hacquire : (a.environment.host.acquire (r.handle key)).run s.world = (.ok (), w₀))
    (hattempt : a.Attempt r key p w₀ w₁ o u)
    (hclean : a.detector.isAmbiguous u.window (windows (s.history.load ⟨key, r.id⟩)) = false) :
    a.EndsWith r key p s ⟨key, r, s.history.load ⟨key, r.id⟩, o⟩ fun t => t.world = w₁ ∧
      t.history = s.history.append ⟨key, r.id⟩ u ∧
      s.Counted t false (s.history.load ⟨key, r.id⟩).length := by
  rcases run_evaluate_attempted hacquire hattempt with ⟨log, hrun⟩ | ⟨hstrict, t, hrefused⟩
  · rw [hclean] at hrun
    exact endsWith_of_record { s with world := w₁, log := log } hattempt.update rfl hrun
  · exact .inr ⟨_, t, hrefused, .inl ⟨rfl, hstrict⟩⟩

/-- An evaluation whose first attempt is ambiguous is judged on the second one. -/
theorem endsWith_of_ambiguous {w₀ w₁ w₂ w₃ : σ} {o₁ o₂ : Observation} {u₁ u₂ : Update}
    (hacquire : (a.environment.host.acquire (r.handle key)).run s.world = (.ok (), w₀))
    (hfirst : a.Attempt r key p w₀ w₁ o₁ u₁)
    (hambiguous :
      a.detector.isAmbiguous u₁.window (windows (s.history.load ⟨key, r.id⟩)) = true)
    (hclear : (a.environment.host.clear (r.handle key)).run w₁ = (.ok (), w₂))
    (hsecond : a.Attempt r key p w₂ w₃ o₂ u₂) :
    a.EndsWith r key p s ⟨key, r, [], o₂⟩ fun t => t.world = w₃ ∧
      t.history = (s.history.clear ⟨key, r.id⟩).append ⟨key, r.id⟩ u₂ ∧ s.Counted t true 0 := by
  rcases run_evaluate_attempted hacquire hfirst with ⟨log, hrun⟩ | ⟨hstrict, t, hrefused⟩
  · obtain ⟨log', hretried⟩ := run_retry_of_observe (s := { s with world := w₁, log := log })
      hclear hsecond.observed
    rw [hambiguous, if_pos rfl] at hrun
    exact endsWith_of_record { s with
        world := w₃, history := s.history.clear ⟨key, r.id⟩, log := log' } hsecond.update rfl
      (hrun.trans (Act.run_bind_ok hretried))
  · exact .inr ⟨_, t, hrefused, .inl ⟨rfl, hstrict⟩⟩

end Auditor
end ExpiryAudit
