import ExpiryAudit.Binary64

/-!
# Decimal text of double precision numbers

A decimal is read as the nearest double precision number. A number is written
with the fewest digits that are read back as that number, and of those the
nearest to its exact value. The exact expansion is the last candidate, so every
finite number has a written form that reads back.
-/
namespace ExpiryAudit

/-- The number `digits * 10 ^ exponent`. -/
structure Decimal where
  digits : Nat
  exponent : Int
  deriving DecidableEq, Repr

namespace Decimal

/-- The rank nearest to a decimal. Magnitudes past four hundred places on either
side are infinity and zero without being computed. -/
def rank (d : Decimal) : Nat :=
  if d.digits = 0 then 0
  else if 400 < d.exponent then Rank.infinity
  else if d.exponent + (Nat.toDigits 10 d.digits).length < -400 then 0
  else if d.exponent < 0 then Rank.ofUnits (d.digits * Rank.one) (Nat.pow 10 d.exponent.natAbs)
  else Rank.ofUnits (d.digits * Nat.pow 10 d.exponent.natAbs * Rank.one) 1

theorem rank_le (d : Decimal) : d.rank ≤ Rank.infinity := by
  unfold rank
  split
  · exact Nat.zero_le _
  split
  · exact Nat.le_refl _
  split
  · exact Nat.zero_le _
  split <;> exact Rank.ofUnits_le _ _

def toBinary64 (d : Decimal) (negative : Bool) : Binary64 := .signed negative d.rank d.rank_le

/-- The exact decimal expansion of a finite magnitude. -/
def exact (rank : Nat) : Decimal := ⟨Rank.units rank * Nat.pow 5 1074, -1074⟩

/-- Places kept below the point while leading digits are counted. -/
def scale : Nat := 400

/-- The neighbours of a magnitude among the decimals with `count` digits that
read back as it, the nearer one first and of two equally near ones the even one. -/
def neighbours (rank count : Nat) : List Decimal :=
  let scaled := Rank.units rank * Nat.pow 10 scale
  let size := (Nat.toDigits 10 (scaled / Rank.one)).length
  let step := Nat.pow 10 (size - count)
  let low := scaled / (Rank.one * step)
  let middle := (2 * low + 1) * (Rank.one * step)
  let exponent := (size : Int) - count - scale
  let below : Decimal := ⟨low, exponent⟩
  let above : Decimal := ⟨low + 1, exponent⟩
  let upward := decide (middle < 2 * scaled) || (2 * scaled == middle && low % 2 == 1)
  (if upward then [above, below] else [below, above]).filter fun d => d.rank == rank

/-- The fewest digits that read back as the magnitude. -/
def shortest (rank : Nat) : Decimal :=
  (((List.range 17).flatMap fun n => neighbours rank (n + 1)).head?).getD (exact rank)

/-- The shortest decimal reads back. -/
theorem rank_shortest_of_exact {rank : Nat} (h : (exact rank).rank = rank) :
    (shortest rank).rank = rank := by
  unfold shortest
  cases hh : ((List.range 17).flatMap fun n => neighbours rank (n + 1)).head? with
  | none => simpa using h
  | some d =>
    have hm := List.mem_of_head? hh
    obtain ⟨n, -, hn⟩ := List.mem_flatMap.1 hm
    have := (List.mem_filter.1 hn).2
    simpa using this

/-- Digits without the zeros at their end, and how many those were. -/
def trimZeros (digits : List Char) : List Char × Nat :=
  let kept := (digits.reverse.dropWhile (· == '0')).reverse
  (kept, digits.length - kept.length)

/-- Positional from 10^-4 up to 10^16 with at least one place after the point;
otherwise one digit before the point and a signed exponent of at least two digits. -/
def text (d : Decimal) : List Char :=
  if d.digits = 0 then ['0', '.', '0'] else
  let (ds, dropped) := trimZeros (Nat.toDigits 10 d.digits)
  let point : Int := d.exponent + dropped + ds.length
  let power := point - 1
  if power < -4 || 16 ≤ power then
    let magnitude := Nat.toDigits 10 power.natAbs
    let padded := if magnitude.length < 2 then '0' :: magnitude else magnitude
    let mantissa := match ds with
      | c :: d :: rest => c :: '.' :: d :: rest
      | _ => ds
    mantissa ++ 'e' :: (if power < 0 then '-' else '+') :: padded
  else if point ≤ 0 then '0' :: '.' :: List.replicate point.natAbs '0' ++ ds
  else if ds.length ≤ point.natAbs then
    ds ++ List.replicate (point.natAbs - ds.length) '0' ++ ['.', '0']
  else ds.take point.natAbs ++ '.' :: ds.drop point.natAbs

end Decimal

namespace Binary64

/-- How the numbers without digits are spelled. -/
structure Spelling where
  nan : String
  infinity : String

/-- The shortest text of a number. -/
def text (spelling : Spelling) : Binary64 → List Char
  | .nan => spelling.nan.toList
  | .signed negative rank _ =>
    (if negative then ['-'] else []) ++
      if rank = Rank.infinity then spelling.infinity.toList else (Decimal.shortest rank).text

/-- The digits of a natural number, filled up with leading zeros. -/
def padded (width n : Nat) : List Char :=
  let ds := Nat.toDigits 10 n
  List.replicate (width - ds.length) '0' ++ ds

/-- The text with a fixed number of places, rounded from the exact value; a tie
goes to the even neighbour. -/
def fixed (places : Nat) : Binary64 → String
  | .nan => "nan"
  | .signed negative rank _ =>
    let magnitude := if rank = Rank.infinity then ['i', 'n', 'f'] else
      let scaled := Rank.nearest (Rank.units rank * Nat.pow 10 places) Rank.one
      Nat.toDigits 10 (scaled / Nat.pow 10 places) ++ '.' :: padded places (scaled % Nat.pow 10 places)
    String.ofList ((if negative then ['-'] else []) ++ magnitude)

end Binary64
end ExpiryAudit
