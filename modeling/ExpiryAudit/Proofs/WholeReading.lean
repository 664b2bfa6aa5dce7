import ExpiryAudit.Proofs.JsonText
import ExpiryAudit.Proofs.Rounding
import ExpiryAudit.Json.Access

/-!
# Whole numbers out of values

The whole number that a value stands for has no more digits than a number that is written,
whether it comes from a number, from a text or from a double precision number that loses
its fraction. A value that stands for none is wrong input, unless it is infinite.
-/
namespace ExpiryAudit

/-! ## Numbers in texts -/

namespace Text

/-- How many characters of a numeral are digits. -/
def digitCount (s : List Char) : Nat := s.countP (· != '_')

theorem digitValue?_lt {c : Char} {d : Nat} (h : digitValue? c = some d) : d < 10 := by
  obtain ⟨first, hfind, rfl⟩ := Option.map_eq_some_iff.1 h
  have hrange := List.find?_some hfind
  simp only [Bool.and_eq_true, decide_eq_true_eq] at hrange
  omega

theorem digitCount_cons_of_digit {c : Char} {d : Nat} (h : digitValue? c = some d)
    (rest : List Char) : digitCount (c :: rest) = digitCount rest + 1 := by
  refine List.countP_cons_of_pos ?_
  rw [bne_iff_ne]
  rintro rfl
  have hnone : digitValue? '_' = none := by decide
  rw [hnone] at h
  cases h

/-- One more digit makes a number less than ten times as great as the next one. -/
theorem digitsAfter_step {n m d k : Nat} (hd : d < 10) (h : m < (10 * n + d + 1) * 10 ^ k) :
    m < (n + 1) * 10 ^ (k + 1) :=
  calc m < (10 * n + d + 1) * 10 ^ k := h
    _ ≤ (n + 1) * 10 * 10 ^ k := Nat.mul_le_mul_right _ (by omega)
    _ = (n + 1) * 10 ^ (k + 1) := by rw [Nat.pow_succ, Nat.mul_assoc, Nat.mul_comm 10]

theorem digitsAfter_lt {n m : Nat} {s : List Char} (h : digitsAfter n s = some m) :
    m < (n + 1) * 10 ^ digitCount s := by
  induction n, s using digitsAfter.induct with
  | case1 n =>
    obtain rfl := Option.some.inj h
    simp [digitCount]
  | case2 n c rest ih =>
    rw [digitsAfter] at h
    obtain ⟨d, hd, h⟩ := Option.bind_eq_some_iff.1 h
    have hcount : digitCount ('_' :: c :: rest) = digitCount (c :: rest) :=
      List.countP_cons_of_neg (by decide)
    rw [hcount, digitCount_cons_of_digit hd]
    exact digitsAfter_step (digitValue?_lt hd) (ih d h)
  | case3 n c rest hother ih =>
    rw [digitsAfter.eq_3 n c rest hother] at h
    obtain ⟨d, hd, h⟩ := Option.bind_eq_some_iff.1 h
    rw [digitCount_cons_of_digit hd]
    exact digitsAfter_step (digitValue?_lt hd) (ih d h)

theorem digits?_lt {s : List Char} {m : Nat} (h : digits? s = some m) :
    m < 10 ^ digitCount s := by
  cases s with
  | nil => cases h
  | cons c rest =>
    obtain ⟨d, hd, h⟩ := Option.bind_eq_some_iff.1 h
    have hlt := digitsAfter_lt h
    rw [digitCount_cons_of_digit hd]
    simpa using @digitsAfter_step 0 _ _ _ (digitValue?_lt hd) (by simpa using hlt)

theorem readDigits_lt {s : List Char} {n : Nat} (h : readDigits s = .ok n) :
    n < 10 ^ digitLimit := by
  unfold readDigits at h
  dsimp only at h
  split at h
  · cases h
  next m hm =>
    split at h
    · cases h
    next hcount =>
      split at h
      · cases h
        refine Nat.lt_of_lt_of_le (digits?_lt hm) ?_
        exact Nat.pow_le_pow_right (by decide) (Nat.not_lt.1 hcount)
      · cases h

theorem isWritable_of_map {rest : List Char} {f : Nat → Int} {n : Int}
    (hf : ∀ m, (f m).natAbs = m) (h : (readDigits rest).map f = .ok n) : isWritable n = true := by
  cases hdigits : readDigits rest with
  | error e =>
    rw [hdigits] at h
    cases h
  | ok m =>
    rw [hdigits] at h
    obtain rfl := Except.ok.inj h
    exact isWritable_of_natAbs_lt ((hf m).symm ▸ readDigits_lt hdigits) (Nat.le_refl _)

theorem isWritable_of_readWhole {s : List Char} {n : Int} (h : readWhole s = .ok n) :
    isWritable n = true := by
  unfold readWhole at h
  split at h
  · next rest _ =>
    refine @isWritable_of_map rest (fun m => -(m : Int)) _ Int.natAbs_negOfNat ?_
    rw [← h]
    cases readDigits rest <;> rfl
  · exact isWritable_of_map (fun _ => rfl) h
  · exact isWritable_of_map (fun _ => rfl) h

end Text

/-! ## Numbers without their fraction -/

namespace Binary64

theorem units_lt {rank power m n : Nat} (h : Rank.spacing rank ≤ power)
    (hsum : 53 + power = m + n) : Rank.units rank < 2 ^ m * 2 ^ n := by
  rw [Rank.units_eq, ← Nat.pow_add, ← hsum]
  calc Rank.significand rank * 2 ^ Rank.spacing rank
    _ ≤ Rank.significand rank * 2 ^ power :=
      Nat.mul_le_mul_left _ (Nat.pow_le_pow_right (by decide) h)
    _ < 2 * Rank.perBinade * 2 ^ power :=
      Nat.mul_lt_mul_of_pos_right (Rank.significand_bounds rank).1 (Nat.two_pow_pos _)
    _ = 2 ^ (53 + power) := by
      rw [Rank.perBinade_eq, Nat.mul_comm 2, ← Nat.pow_succ, ← Nat.pow_add]

/-- A finite magnitude is less than 2^1024. -/
theorem units_lt_of_finite {rank : Nat} (h : rank < Rank.infinity) :
    Rank.units rank < Rank.one * 2 ^ 1024 := by
  have hbinade : rank / Rank.perBinade < 2047 := by
    refine Nat.div_lt_of_lt_mul ?_
    rw [Nat.mul_comm]
    exact h
  have hspacing : Rank.spacing rank ≤ 2045 := by
    unfold Rank.spacing
    omega
  rw [Rank.one_eq]
  exact units_lt hspacing rfl

theorem units?_of_finite {negative : Bool} {rank : Nat} {rank_le : rank ≤ Rank.infinity}
    (h : rank ≠ Rank.infinity) : (signed negative rank rank_le).units? =
      if negative then some (-(Rank.units rank : Int)) else some (Rank.units rank : Int) :=
  if_neg h

theorem natAbs_lt_of_units? {x : Binary64} {u : Int} (h : x.units? = some u) :
    u.natAbs < Rank.one * 2 ^ 1024 := by
  cases x with
  | nan => cases h
  | signed negative rank rank_le =>
    by_cases hinfinite : rank = Rank.infinity
    · rw [units?.eq_2, if_pos hinfinite] at h
      cases h
    · have hsize : u.natAbs = Rank.units rank := by
        rw [units?_of_finite hinfinite] at h
        split at h
        · rw [← Option.some.inj h, Int.natAbs_neg, Int.natAbs_natCast]
        · rw [← Option.some.inj h, Int.natAbs_natCast]
      rw [hsize]
      exact units_lt_of_finite (Nat.lt_of_le_of_ne rank_le hinfinite)

theorem natAbs_lt_of_truncate? {x : Binary64} {n : Int} (h : x.truncate? = some n) :
    n.natAbs < 2 ^ 1024 := by
  obtain ⟨u, hu, rfl⟩ := Option.map_eq_some_iff.1 h
  rw [Int.natAbs_tdiv, Int.natAbs_natCast]
  exact Nat.div_lt_of_lt_mul (natAbs_lt_of_units? hu)

/-- Only the numbers without digits stand for no whole number. -/
theorem truncate?_eq_none_iff {x : Binary64} :
    x.truncate? = none ↔ x = .nan ∨ ∃ negative, x = infinity negative := by
  rw [truncate?, Option.map_eq_none_iff]
  cases x with
  | nan => simp [units?]
  | signed negative rank rank_le =>
    by_cases hinfinite : rank = Rank.infinity
    · simp [units?, infinity, hinfinite]
    · rw [units?_of_finite hinfinite]
      cases negative <;> simp [infinity, hinfinite]

end Binary64

/-! ## Numbers out of values -/

namespace Json

/-- The value is an infinite number. -/
def IsInfinite (v : Json) : Prop := ∃ negative, v = .float (Binary64.infinity negative)

theorem isWritable_of_toInt {v : Json} {n : Int} (h : v.toInt = .ok n)
    (hv : v.isWritable = true) : Text.isWritable n = true := by
  cases v with
  | bool b =>
    obtain rfl := Except.ok.inj h
    refine @Text.isWritable_of_natAbs_lt _ 1 ?_ (by decide)
    cases b <;> decide
  | int m =>
    obtain rfl := Except.ok.inj h
    exact hv
  | float x =>
    have htruncate : x.truncate? = some n := by
      cases x with
      | nan => cases h
      | signed negative rank rank_le =>
        simp only [toInt] at h
        split at h
        · next htruncate =>
          rw [htruncate, Except.ok.inj h]
        · cases h
    have hlt := Binary64.natAbs_lt_of_truncate? htruncate
    have hpower : 2 ^ 1024 ≤ 10 ^ 1024 := Nat.pow_le_pow_left (by decide) 1024
    exact Text.isWritable_of_natAbs_lt (Nat.lt_of_lt_of_le hlt hpower) (by decide)
  | str s =>
    simp only [toInt] at h
    split at h
    · next hread =>
      obtain rfl := Except.ok.inj h
      exact Text.isWritable_of_readWhole hread
    · cases h
    · cases h
  | null => cases h
  | arr items => cases h
  | obj members => cases h

/-- A value that stands for no whole number is wrong input, unless it is infinite. -/
theorem isRejection_of_toInt {v : Json} {f : Fault} (h : v.toInt = .error f) :
    f.isRejection = true ∨ f = .infiniteNumber ∧ v.IsInfinite := by
  cases v with
  | float x =>
    cases x with
    | nan =>
      cases h
      exact .inl rfl
    | signed negative rank rank_le =>
      simp only [toInt] at h
      split at h
      · cases h
      next htruncate =>
        rcases Binary64.truncate?_eq_none_iff.1 htruncate with hnan | ⟨side, hinfinite⟩
        · cases hnan
        · exact .inr ⟨(Except.error.inj h).symm, side, congrArg Json.float hinfinite⟩
  | str s =>
    simp only [toInt] at h
    split at h
    · cases h
    · cases h
      exact .inl rfl
    · cases h
      exact .inl rfl
  | bool b => cases h
  | int n => cases h
  | _ =>
    cases h
    exact .inl rfl

end Json
end ExpiryAudit
