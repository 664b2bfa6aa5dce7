import ExpiryAudit.Binary64.Decimal
import Mathlib.Tactic.GCongr
import Mathlib.Tactic.Ring

/-!
# Rounding

A quotient of units has one rank, however far it has been reduced. The magnitude of a rank
is rounded to that rank, and what is past all magnitudes to infinity. So decimals of one
value have one rank, and the shortest decimal of a magnitude has the rank of that magnitude.
-/
namespace ExpiryAudit

namespace Rank

theorem one_eq : one = 2 ^ 1074 := Nat.pow_eq

theorem one_pos : 0 < one := by
  rw [one_eq]
  exact Nat.two_pow_pos _

theorem perBinade_eq : perBinade = 2 ^ 52 := Nat.pow_eq

theorem perBinade_pos : 0 < perBinade := by
  rw [perBinade_eq]
  exact Nat.two_pow_pos _

theorem nearest_le (numerator denominator : Nat) :
    nearest numerator denominator ≤ numerator / denominator + 1 := by
  unfold nearest
  dsimp only
  split_ifs <;> omega

theorem nearest_mul_left {c : Nat} (hc : 0 < c) (numerator denominator : Nat) :
    nearest (c * numerator) (c * denominator) = nearest numerator denominator := by
  have hless : ∀ m n, 2 * (c * m) < c * n ↔ 2 * m < n := fun m n => by
    rw [Nat.mul_left_comm]
    exact Nat.mul_lt_mul_left hc
  have hmore : ∀ m n, c * n < 2 * (c * m) ↔ n < 2 * m := fun m n => by
    rw [Nat.mul_left_comm]
    exact Nat.mul_lt_mul_left hc
  unfold nearest
  simp only [Nat.mul_div_mul_left _ _ hc, Nat.mul_mod_mul_left, hless, hmore]

theorem nearest_mul_self (n : Nat) {d : Nat} (hd : 0 < d) : nearest (n * d) d = n := by
  unfold nearest
  simp [Nat.mul_div_cancel _ hd, hd]

/-- A quotient may be reduced before it is rounded. -/
theorem ofUnits_mul_left {c : Nat} (hc : 0 < c) (numerator denominator : Nat) :
    ofUnits (c * numerator) (c * denominator) = ofUnits numerator denominator := by
  unfold ofUnits
  simp only [Nat.mul_div_mul_left _ _ hc, Nat.mul_assoc, nearest_mul_left hc]

theorem ofUnits_mul_right {c : Nat} (hc : 0 < c) (numerator denominator : Nat) :
    ofUnits (numerator * c) (denominator * c) = ofUnits numerator denominator := by
  rw [Nat.mul_comm numerator, Nat.mul_comm denominator, ofUnits_mul_left hc]

/-- What is below the last power of two with a rank, counted in units, has a finite rank. -/
theorem ofUnits_lt_infinity {numerator denominator : Nat}
    (h : numerator / denominator < 2 ^ (1023 + 1074)) : ofUnits numerator denominator < infinity := by
  have hlog : (numerator / denominator).log2 ≤ 2096 := by
    by_cases hzero : numerator / denominator = 0
    · rw [hzero]
      decide
    · have hless := (Nat.log2_lt hzero).2 h
      omega
  have hshift : (numerator / denominator).log2 - 52 ≤ 2044 := by omega
  have hplaces : (numerator / denominator).log2 + 1 ≤
      53 + ((numerator / denominator).log2 - 52) := by omega
  unfold ofUnits
  generalize (numerator / denominator).log2 - 52 = shift at hshift hplaces ⊢
  -- The digits that are left after the shift.
  have hdigits : numerator / (denominator * 2 ^ shift) < 2 ^ 53 := by
    rw [← Nat.div_div_eq_div_mul, Nat.div_lt_iff_lt_mul (Nat.two_pow_pos shift), ← Nat.pow_add]
    exact Nat.lt_of_lt_of_le Nat.lt_log2_self (Nat.pow_le_pow_right (by decide) hplaces)
  have hnearest := nearest_le numerator (denominator * 2 ^ shift)
  have hrank : shift * perBinade + nearest numerator (denominator * 2 ^ shift) < infinity := by
    unfold infinity perBinade
    rw [Nat.pow_eq]
    omega
  exact Nat.lt_of_le_of_lt (Nat.min_le_right _ _) hrank

/-- Where the shift alone reaches the last binade, the rank is infinity. -/
theorem ofUnits_eq_infinity {numerator denominator : Nat}
    (h : 2 ^ 2099 ≤ numerator / denominator) : ofUnits numerator denominator = infinity := by
  have hne : numerator / denominator ≠ 0 := Nat.ne_of_gt (Nat.lt_of_lt_of_le (Nat.two_pow_pos _) h)
  have hlog : ¬(numerator / denominator).log2 < 2099 := fun hless =>
    absurd ((Nat.log2_lt hne).1 hless) (Nat.not_lt.2 h)
  have hshift : 2047 ≤ (numerator / denominator).log2 - 52 := by omega
  refine Nat.min_eq_left (Nat.le_trans ?_ (Nat.le_add_right _ _))
  exact Nat.mul_le_mul_right _ hshift

/-! ## Magnitudes of ranks -/

/-- The significand at a rank. -/
def significand (rank : Nat) : Nat := rank - spacing rank * perBinade

theorem units_eq (rank : Nat) : units rank = significand rank * 2 ^ spacing rank := rfl

theorem spacing_mul_add (rank : Nat) : spacing rank * perBinade + significand rank = rank := by
  have hle : spacing rank * perBinade ≤ rank := by
    refine Nat.le_trans (Nat.mul_le_mul_right _ (Nat.sub_le _ 1)) ?_
    exact Nat.div_mul_le_self rank perBinade
  exact Nat.add_sub_cancel' hle

/-- All significands but those of the first binade have 53 digits. -/
theorem significand_bounds (rank : Nat) : significand rank < 2 * perBinade ∧
    (0 < spacing rank → perBinade ≤ significand rank) := by
  have hrank := spacing_mul_add rank
  have hdiv := Nat.div_add_mod rank perBinade
  have hmod := Nat.mod_lt rank perBinade_pos
  unfold spacing at hrank ⊢
  generalize rank / perBinade = binade at hrank hdiv ⊢
  cases binade with
  | zero => omega
  | succ binade =>
    rw [Nat.add_sub_cancel] at hrank ⊢
    rw [Nat.mul_add, Nat.mul_one, Nat.mul_comm] at hdiv
    omega

theorem units_eq_zero_iff {rank : Nat} : units rank = 0 ↔ rank = 0 := by
  have hrank := spacing_mul_add rank
  have hbounds := significand_bounds rank
  have hpower : 2 ^ spacing rank ≠ 0 := Nat.ne_of_gt (Nat.two_pow_pos _)
  have hbinade := perBinade_pos
  rw [units_eq, Nat.mul_eq_zero, or_iff_left hpower]
  constructor
  · intro hzero
    have hspacing : spacing rank = 0 := by
      by_contra hne
      have hle := hbounds.2 (Nat.pos_of_ne_zero hne)
      omega
    rw [hspacing, hzero] at hrank
    omega
  · rintro rfl
    omega

/-- A magnitude is rounded to its own rank. -/
theorem ofUnits_units {rank : Nat} (h : rank ≤ infinity) : ofUnits (units rank) 1 = rank := by
  have hshift : (units rank).log2 - 52 = spacing rank := by
    obtain ⟨hless, hfull⟩ := significand_bounds rank
    rw [perBinade_eq] at hless hfull
    by_cases hspacing : spacing rank = 0
    · rw [units_eq, hspacing, pow_zero, Nat.mul_one]
      by_cases hzero : significand rank = 0
      · rw [hzero]
        decide
      · have hlog := (Nat.log2_lt (k := 53) hzero).2 (by omega)
        omega
    · have hfull := hfull (Nat.pos_of_ne_zero hspacing)
      have hpower := Nat.two_pow_pos (spacing rank)
      have hlog : (units rank).log2 = 52 + spacing rank := by
        rw [units_eq, Nat.log2_eq_iff (Nat.mul_ne_zero (by omega) (by omega))]
        constructor
        · rw [Nat.pow_add]
          exact Nat.mul_le_mul_right _ hfull
        · rw [Nat.add_right_comm, Nat.pow_add]
          exact Nat.mul_lt_mul_of_pos_right (by omega) hpower
      omega
  unfold ofUnits
  simp only [Nat.div_one, hshift, Nat.one_mul]
  rw [Nat.pow_eq, units_eq, nearest_mul_self _ (Nat.two_pow_pos _), spacing_mul_add]
  exact Nat.min_eq_right h

end Rank

namespace Decimal

theorem ten_pow_pos (n : Nat) : 0 < 10 ^ n := Nat.pow_pos (by decide)

theorem ten_pow_eq (n : Nat) : 10 ^ n = 5 ^ n * 2 ^ n := Nat.mul_pow 5 2 n

/-- Zeros at the end of a number are that many digits more. -/
theorem length_toDigits_mul_pow {n : Nat} (hn : n ≠ 0) (places : Nat) :
    (Nat.toDigits 10 (n * 10 ^ places)).length = (Nat.toDigits 10 n).length + places := by
  induction places with
  | zero => simp
  | succ places ih =>
    have hone : 0 < n * 10 ^ places := Nat.mul_pos (Nat.pos_of_ne_zero hn) (ten_pow_pos places)
    have hlarge : 10 ≤ n * 10 ^ (places + 1) := by
      rw [Nat.pow_succ, ← Nat.mul_assoc]
      omega
    have hdiv : n * 10 ^ (places + 1) / 10 = n * 10 ^ places := by
      rw [Nat.pow_succ, ← Nat.mul_assoc, Nat.mul_div_cancel _ (by decide)]
    rw [Nat.toDigits_of_base_le (by decide) hlarge, hdiv, List.length_append, ih]
    rfl

/-! ## Decimals of one value -/

/-- The rank nearest to a decimal, computed for every exponent. -/
def rounded (d : Decimal) : Nat :=
  if d.exponent < 0 then Rank.ofUnits (d.digits * Rank.one) (10 ^ d.exponent.natAbs)
  else Rank.ofUnits (d.digits * 10 ^ d.exponent.natAbs * Rank.one) 1

/-- Zeros may be moved from the digits to the exponent. -/
theorem rounded_mul_pow (digits places : Nat) (exponent : Int) :
    rounded ⟨digits * 10 ^ places, exponent⟩ = rounded ⟨digits, exponent + places⟩ := by
  unfold rounded
  dsimp only
  by_cases hexponent : exponent < 0
  · rw [if_pos hexponent]
    by_cases hmoved : exponent + places < 0
    · have hplaces : exponent.natAbs = (exponent + places).natAbs + places := by omega
      rw [if_pos hmoved, hplaces, Nat.pow_add, Nat.mul_right_comm,
        Rank.ofUnits_mul_right (ten_pow_pos places)]
    · have hplaces : 10 ^ places = 10 ^ (exponent + places).natAbs * 10 ^ exponent.natAbs := by
        rw [← Nat.pow_add]
        congr 1
        omega
      have hreduced := Rank.ofUnits_mul_right (ten_pow_pos exponent.natAbs)
        (digits * 10 ^ (exponent + places).natAbs * Rank.one) 1
      rw [if_neg hmoved, ← hreduced, Nat.one_mul, hplaces, ← Nat.mul_assoc, Nat.mul_right_comm]
  · have hmoved : ¬exponent + places < 0 := by omega
    have hplaces : (exponent + places).natAbs = places + exponent.natAbs := by omega
    rw [if_neg hexponent, if_neg hmoved, hplaces, Nat.pow_add, Nat.mul_assoc digits]

/-- Magnitudes with more than four hundred places are past all finite ones. -/
theorem rounded_of_large {d : Decimal} (hdigits : d.digits ≠ 0) (hlarge : 400 < d.exponent) :
    d.rounded = Rank.infinity := by
  have hplaces : 401 ≤ d.exponent.natAbs := by omega
  unfold rounded
  rw [if_neg (by omega)]
  refine Rank.ofUnits_eq_infinity ?_
  rw [Nat.div_one, Rank.one_eq]
  calc 2 ^ 2099 ≤ 2 ^ (3 * 401 + 1074) := Nat.pow_le_pow_right (by decide) (by decide)
    _ = 8 ^ 401 * 2 ^ 1074 := by rw [Nat.pow_add, Nat.pow_mul]
    _ ≤ 10 ^ d.exponent.natAbs * 2 ^ 1074 := Nat.mul_le_mul_right _
        ((Nat.pow_le_pow_left (by decide) _).trans (Nat.pow_le_pow_right (by decide) hplaces))
    _ ≤ d.digits * 10 ^ d.exponent.natAbs * 2 ^ 1074 := Nat.mul_le_mul_right _
        (Nat.le_mul_of_pos_left _ (Nat.pos_of_ne_zero hdigits))

theorem rank_of_digits_eq_zero {d : Decimal} (h : d.digits = 0) : d.rank = 0 := if_pos h

/-- Only small magnitudes are not computed. -/
theorem rank_eq {d : Decimal} (hdigits : d.digits ≠ 0) :
    d.rank = if d.exponent + (Nat.toDigits 10 d.digits).length < -400 then 0 else d.rounded := by
  unfold rank
  rw [if_neg hdigits]
  split
  · next hlarge => rw [if_neg (by omega), rounded_of_large hdigits hlarge]
  · rfl

/-- Decimals of one value have one rank. -/
theorem rank_mul_pow (digits places : Nat) (exponent : Int) :
    rank ⟨digits * 10 ^ places, exponent⟩ = rank ⟨digits, exponent + places⟩ := by
  by_cases hzero : digits = 0
  · subst hzero
    simp [rank]
  have hne : digits * 10 ^ places ≠ 0 := Nat.mul_ne_zero hzero (Nat.ne_of_gt (ten_pow_pos places))
  have hsize : exponent + ((Nat.toDigits 10 digits).length + places : Nat) =
      exponent + places + ((Nat.toDigits 10 digits).length : Nat) := by omega
  rw [rank_eq hne, rank_eq hzero, length_toDigits_mul_pow hzero, hsize, rounded_mul_pow]

/-- The exact expansion of a magnitude has its rank. -/
theorem rank_exact {rank : Nat} (h : rank ≤ Rank.infinity) : (exact rank).rank = rank := by
  by_cases hzero : rank = 0
  · have hdigits : (exact rank).digits = 0 :=
      Nat.mul_eq_zero.2 (.inl (Rank.units_eq_zero_iff.2 hzero))
    rw [Decimal.rank, if_pos hdigits, hzero]
  have hunits : Rank.units rank ≠ 0 := mt Rank.units_eq_zero_iff.1 hzero
  have hdigits : (exact rank).digits = Rank.units rank * 5 ^ 1074 := rfl
  have hne : (exact rank).digits ≠ 0 :=
    Nat.mul_ne_zero hunits (Nat.ne_of_gt (Nat.pow_pos (by decide)))
  have hmany : ¬(Nat.toDigits 10 (exact rank).digits).length ≤ 674 := by
    have hfive : (10 : Nat) ^ 674 ≤ 5 ^ 1074 := by decide +kernel
    rw [Nat.length_toDigits_le_iff (by decide) (by decide), hdigits]
    exact Nat.not_lt.2 (hfive.trans (Nat.le_mul_of_pos_left _ (Nat.pos_of_ne_zero hunits)))
  have hexponent : (exact rank).exponent = -1074 := rfl
  have hsize : ¬(exact rank).exponent + (Nat.toDigits 10 (exact rank).digits).length < -400 := by
    omega
  have hten : 10 ^ 1074 = 5 ^ 1074 * Rank.one := by rw [Rank.one_eq, ten_pow_eq]
  have hquotient := Rank.ofUnits_mul_right (ten_pow_pos 1074) (Rank.units rank) 1
  rw [Nat.one_mul, Rank.ofUnits_units h] at hquotient
  rw [rank_eq hne, if_neg hsize, rounded, if_pos (by omega), hdigits, Nat.mul_assoc, ← hten]
  exact hquotient

/-- The shortest decimal of a magnitude has its rank. -/
theorem rank_shortest {rank : Nat} (h : rank ≤ Rank.infinity) : (shortest rank).rank = rank :=
  rank_shortest_of_exact (rank_exact h)

theorem toBinary64_eq {d e : Decimal} (h : d.rank = e.rank) (negative : Bool) :
    d.toBinary64 negative = e.toBinary64 negative := by
  simp only [toBinary64, h]

end Decimal

end ExpiryAudit
