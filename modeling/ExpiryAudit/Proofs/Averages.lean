import ExpiryAudit.Proofs.Failure
import ExpiryAudit.Proofs.Rounding

/-!
# Averages

An average over updates is a quotient that is rounded to double precision. It is finite as
long as there are fewer updates than a double can count, so that until then the summary of
the statistics never fails.
-/
namespace ExpiryAudit

/-- A quotient is finite if it is below the last power of two that is. -/
theorem Binary64.quotient?_isSome {numerator denominator : Nat}
    (h : numerator < 2 ^ 1023 * denominator) : (quotient? numerator denominator).isSome := by
  have hunits : numerator * Rank.one / denominator < 2 ^ (1023 + 1074) := by
    refine Nat.div_lt_of_lt_mul ?_
    calc numerator * Rank.one < 2 ^ 1023 * denominator * Rank.one :=
          Nat.mul_lt_mul_of_pos_right h Rank.one_pos
      _ = denominator * 2 ^ (1023 + 1074) := by
          rw [Nat.mul_comm (2 ^ 1023), Nat.mul_assoc, Nat.pow_add, Rank.one_eq]
  have hrank := Rank.ofUnits_lt_infinity hunits
  have hfinite : (round false (numerator * Rank.one) denominator).units?.isSome := by
    simp only [round, units?, if_neg (Nat.ne_of_lt hrank), Bool.false_eq_true, if_false,
      Option.isSome_some]
  simp only [quotient?, hfinite, if_true, Option.isSome_some]

namespace Statistics

/-- Averages over fewer updates than this are finite. -/
def capacity : Nat := 2 ^ 1023

theorem lt_capacity {n k : Nat} (h : n < 2 ^ k) (hk : k ≤ 1023) : n < capacity := by
  have hle : 2 ^ k ≤ capacity := by
    rw [capacity]
    gcongr
    exact Nat.le_succ 1
  exact Nat.lt_of_lt_of_le h hle

/-- Every update clashed at most once and was judged against at most all earlier ones. -/
structure Bounded (s : Statistics) : Prop where
  clashes : s.clashes ≤ s.updates
  historyLength : s.historyLength ≤ s.updates * s.updates

theorem bounded_start (reportEvery : Int) (h : 0 < reportEvery) :
    (start reportEvery h).Bounded := ⟨Nat.le_refl _, Nat.zero_le _⟩

variable {s : Statistics}

theorem Bounded.count (h : s.Bounded) (clash : Bool) {length : Nat} (hlength : length ≤ s.updates) :
    (s.count clash length).Bounded where
  clashes := by
    have hclashes := h.clashes
    cases clash <;> simp only [Statistics.count, if_true, Bool.false_eq_true, if_false] <;> omega
  historyLength := by
    have hsum := Nat.add_le_add h.historyLength hlength
    have hsquare : s.updates * s.updates + s.updates ≤ (s.updates + 1) * (s.updates + 1) := by
      have hexpand : (s.updates + 1) * (s.updates + 1) =
          s.updates * s.updates + s.updates + (s.updates + 1) := by ring
      omega
    exact Nat.le_trans hsum hsquare

theorem perUpdate_ok {total : Nat} (h : total < capacity * s.updates ∨ s.updates = 0) :
    ∃ x, s.perUpdate total = .ok x := by
  unfold perUpdate
  split
  · exact ⟨_, rfl⟩
  · next hne =>
    obtain ⟨x, hx⟩ := Option.isSome_iff_exists.1
      (Binary64.quotient?_isSome (h.resolve_right hne))
    rw [hx]
    exact ⟨x, rfl⟩

/-- Below capacity a summary never fails. -/
theorem Bounded.summary_ok (h : s.Bounded) (hs : s.updates < capacity) :
    ∃ x, s.summary = .ok x := by
  have hless : ∀ total, total ≤ s.updates * s.updates →
      total < capacity * s.updates ∨ s.updates = 0 := fun total htotal => by
    by_cases hzero : s.updates = 0
    · exact .inr hzero
    · exact .inl (Nat.lt_of_le_of_lt htotal
        (Nat.mul_lt_mul_of_pos_right hs (Nat.pos_of_ne_zero hzero)))
  obtain ⟨average, haverage⟩ := perUpdate_ok (hless _ h.historyLength)
  obtain ⟨ratio, hratio⟩ := perUpdate_ok (hless _ (Nat.le_trans h.clashes (Nat.le_mul_self _)))
  refine ⟨⟨s.updates, s.clashes, average, ratio⟩, ?_⟩
  rw [summary, haverage, hratio]
  rfl

end Statistics

theorem Session.Counted.bounded {σ : Type} {s t : Session σ} {clash : Bool} {length : Nat}
    (h : s.Counted t clash length) (hs : s.statistics.Bounded)
    (hlength : length ≤ s.statistics.updates) : t.statistics.Bounded := by
  have hcount := hs.count clash hlength
  refine ⟨?_, ?_⟩
  · rw [h.clashes, h.updates]
    cases clash <;> exact hcount.clashes
  · rw [h.historyLength, h.updates]
    exact hcount.historyLength

/-- Counting returns as long as averages are finite. -/
theorem Session.run_count_bounded {σ : Type} {s : Session σ} (clash : Bool) {length : Nat}
    (hs : s.statistics.Bounded) (hlength : length ≤ s.statistics.updates)
    (hsize : s.statistics.updates + 1 < Statistics.capacity) :
    ∃ t, (count clash length).run s = (.ok (), t) := by
  cases hrun : (count clash length).run s with
  | mk result t =>
    cases result with
    | ok x => exact ⟨t, rfl⟩
    | error f =>
      obtain ⟨x, hx⟩ := (hs.count clash hlength).summary_ok hsize
      cases (run_count_error hrun).1.symm.trans hx

end ExpiryAudit
