import ExpiryAudit.Proofs.World

/-!
# Evaluations that fail

An evaluation that fails has left the history of its slot as it was or empty, and it is
empty only after the host has cleared the slot. Nothing has been counted, unless the
summary of the statistics failed or the window of the second attempt ran backwards.
-/
namespace ExpiryAudit

variable {σ : Type}

namespace Session

theorem run_inWorld_error {α : Type} {a : Act σ α} {f : Fault} {s t : Session σ}
    (h : (inWorld a).run s = (.error f, t)) :
    ∃ w, a.run s.world = (.error f, w) ∧ t = { s with world := w } := by
  rw [inWorld, Act.run_within] at h
  obtain ⟨hf, ht⟩ := Prod.mk.inj h
  exact ⟨_, Prod.ext hf rfl, ht.symm⟩

theorem run_report_error {entry : LogEntry} {f : Fault} {s t : Session σ}
    (h : (report entry).run s = (.error f, t)) :
    entry.isWritable = false ∧ ∃ log, t = { s with log := log } := by
  rw [report, Act.run_within] at h
  obtain ⟨hf, rfl⟩ := Prod.mk.inj h
  refine ⟨?_, _, rfl⟩
  by_contra hwritable
  rw [Log.run_add_of_isWritable (Bool.not_eq_false _ ▸ hwritable)] at hf
  cases hf

theorem run_reportAny_error {entry : Option LogEntry} {f : Fault} {s t : Session σ}
    (h : (reportAny entry).run s = (.error f, t)) : ∃ log, t = { s with log := log } := by
  cases entry with
  | none => cases h
  | some entry => exact (run_report_error h).2

/-- A flush fails only if the summary that is due does. -/
theorem run_flush_error {f : Fault} {s t : Statistics}
    (h : Statistics.flush.run s = (.error f, t)) :
    s.summary = .error f ∧ t.updates = s.updates ∧ t.clashes = s.clashes ∧
      t.historyLength = s.historyLength := by
  simp only [Act.run, Statistics.flush] at h
  split at h
  · obtain ⟨hf, rfl⟩ := Prod.mk.inj h
    refine ⟨?_, rfl, rfl, rfl⟩
    cases hs : s.summary with
    | ok x => rw [hs] at hf; cases hf
    | error e => rw [hs] at hf; cases hf; rfl
  · cases h

/-- Counting fails only if the summary that is due does. The update has been counted. -/
theorem run_count_error {clash : Bool} {length : Nat} {f : Fault} {s t : Session σ}
    (h : (count clash length).run s = (.error f, t)) :
    (s.statistics.count clash length).summary = .error f ∧ s.Counted t clash length ∧
      t.history = s.history := by
  rcases Act.run_bind_eq_error h with h | ⟨⟨⟩, s₁, hmodify, h⟩
  · cases h
  rw [Act.run_modify] at hmodify
  obtain ⟨-, rfl⟩ := Prod.mk.inj hmodify
  rcases Act.run_bind_eq_error h with h | ⟨summary, s₂, -, h⟩
  · rw [inStatistics, Act.run_within] at h
    obtain ⟨hf, rfl⟩ := Prod.mk.inj h
    obtain ⟨hsummary, hupdates, hclashes, hlength⟩ := run_flush_error (Prod.ext hf rfl)
    refine ⟨hsummary, ⟨hupdates, ?_, hlength⟩, rfl⟩
    cases clash <;> exact hclashes
  · -- A summary can always be written.
    cases summary with
    | none => cases h
    | some summary => cases (run_report_error h).1

end Session

namespace Auditor

/-- The first attempt of an evaluation was ambiguous, and the host has cleared the slot. -/
def Clears (a : Auditor σ) (r : Rule) (key : Text) (p : Payload) (s : Session σ) (w : σ) : Prop :=
  ∃ w₀ w₁ o u, (a.environment.host.acquire (r.handle key)).run s.world = (.ok (), w₀) ∧
    a.Attempt r key p w₀ w₁ o u ∧
    a.detector.isAmbiguous u.window (windows (s.history.load ⟨key, r.id⟩)) = true ∧
    (a.environment.host.clear (r.handle key)).run w₁ = (.ok (), w)

/-- How an evaluation fails. -/
inductive Fails (a : Auditor σ) (r : Rule) (key : Text) (p : Payload) (s : Session σ) :
    Fault → Session σ → Prop
  /-- Nothing was recorded, counted or forgotten. -/
  | stopped {f : Fault} {t : Session σ} (history : t.history = s.history)
      (statistics : t.statistics = s.statistics) : Fails a r key p s f t
  /-- The second attempt has failed. -/
  | emptied {f : Fault} {w : σ} {t : Session σ} (cleared : a.Clears r key p s w)
      (history : t.history = s.history.clear ⟨key, r.id⟩)
      (statistics : t.statistics = s.statistics) : Fails a r key p s f t
  /-- The update was counted, but the summary that was due has no average. -/
  | overflowed {f : Fault} {clash : Bool} {length : Nat} {t : Session σ}
      (history : t.history = s.history ∨
        (∃ w, a.Clears r key p s w) ∧ t.history = s.history.clear ⟨key, r.id⟩)
      (bounded : length ≤ (s.history.load ⟨key, r.id⟩).length)
      (summary : (s.statistics.count clash length).summary = .error f)
      (counted : s.Counted t clash length) : Fails a r key p s f t
  /-- The update of the second attempt was counted, but its window runs backwards. -/
  | inverted {f : Fault} {w w' : σ} {o : Observation} {t : Session σ}
      (cleared : a.Clears r key p s w)
      (observed : (r.observe a.environment (r.handle key) p).run w = (.ok o, w'))
      (update : o.update = .error f)
      (history : t.history = s.history.clear ⟨key, r.id⟩)
      (counted : s.Counted t true 0) : Fails a r key p s f t

section Fails

variable {a : Auditor σ} {r : Rule} {key : Text} {p : Payload} {s t : Session σ} {f : Fault}

/-- The history of the slot is left as it was or empty. -/
theorem Fails.history_eq (h : a.Fails r key p s f t) :
    t.history = s.history ∨
      (∃ w, a.Clears r key p s w) ∧ t.history = s.history.clear ⟨key, r.id⟩ := by
  cases h with
  | stopped history => exact .inl history
  | emptied cleared history => exact .inr ⟨⟨_, cleared⟩, history⟩
  | overflowed history => exact history
  | inverted cleared _ _ history => exact .inr ⟨⟨_, cleared⟩, history⟩

/-- At most the update of the evaluation has been counted. -/
theorem Fails.statistics_eq_or_counted (h : a.Fails r key p s f t) :
    t.statistics = s.statistics ∨
      ∃ clash length, length ≤ (s.history.load ⟨key, r.id⟩).length ∧ s.Counted t clash length := by
  cases h with
  | stopped _ statistics => exact .inl statistics
  | emptied _ _ statistics => exact .inl statistics
  | overflowed _ bounded _ counted => exact .inr ⟨_, _, bounded, counted⟩
  | inverted _ _ _ _ counted => exact .inr ⟨_, _, Nat.zero_le _, counted⟩

/-- A retry fails before the host has cleared the slot, or with an empty history. -/
theorem run_retry_error (h : (a.retry r key p).run s = (.error f, t)) :
    t.statistics = s.statistics ∧ (t.history = s.history ∨
      (∃ w, (a.environment.host.clear (r.handle key)).run s.world = (.ok (), w)) ∧
        t.history = s.history.clear ⟨key, r.id⟩) := by
  rcases Act.run_bind_eq_error h with h | ⟨⟨⟩, s₁, hcleared, h⟩
  · obtain ⟨w, -, rfl⟩ := Session.run_inWorld_error h
    exact ⟨rfl, .inl rfl⟩
  obtain ⟨w, hclear, rfl⟩ := Session.run_inWorld_ok hcleared
  rcases Act.run_bind_eq_error h with h | ⟨⟨⟩, s₂, hforgotten, h⟩
  · cases h
  obtain ⟨-, rfl⟩ := Prod.mk.inj hforgotten
  rcases Act.run_bind_eq_error h with h | ⟨o, s₃, hobserved, h⟩
  · obtain ⟨w', -, rfl⟩ := Session.run_inWorld_error h
    exact ⟨rfl, .inr ⟨⟨w, hclear⟩, rfl⟩⟩
  obtain ⟨w', -, rfl⟩ := Session.run_inWorld_ok hobserved
  rcases Act.run_bind_eq_error h with h | ⟨⟨⟩, s₄, -, h⟩
  · obtain ⟨-, log, rfl⟩ := Session.run_report_error h
    exact ⟨rfl, .inr ⟨⟨w, hclear⟩, rfl⟩⟩
  · cases h

/-- The end of an evaluation fails after the update was counted: without an average, or
with a window that runs backwards. -/
theorem run_record_error {clash : Bool} {previous : List Update} {o : Observation}
    (h : (record r key clash previous o).run s = (.error f, t)) :
    ((s.statistics.count clash previous.length).summary = .error f ∨ o.update = .error f) ∧
      t.history = s.history ∧ s.Counted t clash previous.length := by
  rcases Act.run_bind_eq_error h with h | ⟨⟨⟩, s₁, hcount, h⟩
  · obtain ⟨hsummary, hcounted, hhistory⟩ := Session.run_count_error h
    exact ⟨.inl hsummary, hhistory, hcounted⟩
  obtain ⟨hcounted, -, hhistory, -, -⟩ := Session.run_count_ok hcount
  rcases Act.run_bind_eq_error h with h | ⟨u, s₂, -, h⟩
  · rw [Act.run_lift] at h
    obtain ⟨hupdate, rfl⟩ := Prod.mk.inj h
    exact ⟨.inr hupdate, hhistory, hcounted⟩
  · rcases Act.run_bind_eq_error h with h | ⟨⟨⟩, s₃, -, h⟩
    · cases h
    · cases h

/-- An evaluation fails in one of four ways. -/
theorem fails_of_run (h : (a.evaluate r key p).run s = (.error f, t)) :
    a.Fails r key p s f t := by
  rcases Act.run_bind_eq_error h with h | ⟨⟨⟩, s₁, hacquired, h⟩
  · obtain ⟨w, -, rfl⟩ := Session.run_inWorld_error h
    exact .stopped rfl rfl
  obtain ⟨w₀, hacquire, rfl⟩ := Session.run_inWorld_ok hacquired
  rcases Act.run_bind_eq_error h with h | ⟨previous, s₂, hloaded, h⟩
  · cases h
  obtain ⟨hprevious, rfl⟩ := Prod.mk.inj hloaded
  cases hprevious
  rcases Act.run_bind_eq_error h with h | ⟨first, s₃, hobserved, h⟩
  · obtain ⟨w, -, rfl⟩ := Session.run_inWorld_error h
    exact .stopped rfl rfl
  obtain ⟨w₁, hobserve, rfl⟩ := Session.run_inWorld_ok hobserved
  rcases Act.run_bind_eq_error h with h | ⟨u₁, s₄, hlifted, h⟩
  · rw [Act.run_lift] at h
    obtain ⟨-, rfl⟩ := Prod.mk.inj h
    exact .stopped rfl rfl
  obtain ⟨hattempt, rfl⟩ := Act.run_lift_eq_ok hlifted
  rcases Act.run_bind_eq_error h with h | ⟨⟨⟩, s₅, hreported, h⟩
  · obtain ⟨log, rfl⟩ := Session.run_reportAny_error h
    exact .stopped rfl rfl
  obtain ⟨log, rfl⟩ := Session.run_reportAny_ok hreported
  dsimp only at h
  split at h
  · next hambiguous =>
    have hclears : ∀ w, (a.environment.host.clear (r.handle key)).run w₁ = (.ok (), w) →
        a.Clears r key p s w := fun w hclear =>
      ⟨w₀, w₁, first, u₁, hacquire, ⟨hobserve, hattempt⟩, hambiguous, hclear⟩
    rcases Act.run_bind_eq_error h with h | ⟨second, s₆, hretried, h⟩
    · obtain ⟨hstatistics, hhistory | ⟨⟨w, hclear⟩, hhistory⟩⟩ := run_retry_error h
      · exact .stopped hhistory hstatistics
      · exact .emptied (hclears w hclear) hhistory hstatistics
    obtain ⟨w₂, w₃, log', hclear, hobserve', rfl⟩ := run_retry_ok hretried
    rcases Act.run_bind_eq_error h with h | ⟨judged, s₇, hjudged, h⟩
    · cases h
    obtain ⟨rfl, rfl⟩ := Act.run_pure_eq_ok hjudged
    obtain ⟨hcause, hhistory, hcounted⟩ := run_record_error h
    rw [hambiguous] at hcause hcounted
    have hcounted : s.Counted t true 0 :=
      ⟨hcounted.updates, hcounted.clashes, hcounted.historyLength⟩
    rcases hcause with hsummary | hupdate
    · exact .overflowed (.inr ⟨⟨w₂, hclears w₂ hclear⟩, hhistory⟩) (Nat.zero_le _) hsummary hcounted
    · exact .inverted (hclears w₂ hclear) hobserve' hupdate hhistory hcounted
  · next hunambiguous =>
    have hclean := Bool.eq_false_iff.2 hunambiguous
    rcases Act.run_bind_eq_error h with h | ⟨judged, s₆, hjudged, h⟩
    · cases h
    obtain ⟨rfl, rfl⟩ := Act.run_pure_eq_ok hjudged
    obtain ⟨hcause, hhistory, hcounted⟩ := run_record_error h
    rw [hclean] at hcause hcounted
    rcases hcause with hsummary | hupdate
    · exact .overflowed (.inl hhistory) (Nat.le_refl _) hsummary
        ⟨hcounted.updates, hcounted.clashes, hcounted.historyLength⟩
    · cases hattempt.symm.trans hupdate

end Fails

end Auditor
end ExpiryAudit
