/-!
# Double precision numbers

The nonnegative representable numbers are counted in increasing order: zero has
rank 0, the least subnormal rank 1, and infinity the last rank. A number is a
sign and a rank, or not a number. Every finite magnitude is a whole number of
units of 2^-1074, so comparison, addition, truncation and rounding are exact
arithmetic on natural numbers followed by at most one rounding.
-/
namespace ExpiryAudit

namespace Rank

/-- Magnitudes that share a binary exponent. -/
def perBinade : Nat := Nat.pow 2 52

/-- The rank of infinity, after 2047 binades of finite magnitudes. -/
def infinity : Nat := 2047 * perBinade

/-- Units in the number one. -/
def one : Nat := Nat.pow 2 1074

/-- The power of two between neighbours at this rank, counted from the unit. -/
def spacing (rank : Nat) : Nat := rank / perBinade - 1

/-- The magnitude at a finite rank, in units. -/
def units (rank : Nat) : Nat := (rank - spacing rank * perBinade) * Nat.pow 2 (spacing rank)

/-- The whole number nearest to a quotient; halfway goes to the even one. -/
def nearest (numerator denominator : Nat) : Nat :=
  let floor := numerator / denominator
  let twice := 2 * (numerator % denominator)
  if twice < denominator then floor
  else if denominator < twice then floor + 1
  else if floor % 2 = 0 then floor
  else floor + 1

/-- The rank nearest to a quotient of units; whatever reaches past the finite
magnitudes is infinity. -/
def ofUnits (numerator denominator : Nat) : Nat :=
  let shift := (numerator / denominator).log2 - 52
  min infinity (shift * perBinade + nearest numerator (denominator * Nat.pow 2 shift))

theorem ofUnits_le (numerator denominator : Nat) : ofUnits numerator denominator ≤ infinity :=
  Nat.min_le_left _ _

end Rank

/-- A double precision number. -/
inductive Binary64 where
  | nan
  | signed (negative : Bool) (rank : Nat) (rank_le : rank ≤ Rank.infinity)
  deriving DecidableEq, Repr

namespace Binary64

def zero : Binary64 := .signed false 0 (Nat.zero_le _)

def infinity (negative : Bool) : Binary64 := .signed negative Rank.infinity (Nat.le_refl _)

/-- The number nearest to a quotient of units. -/
def round (negative : Bool) (numerator denominator : Nat) : Binary64 :=
  .signed negative (Rank.ofUnits numerator denominator) (Rank.ofUnits_le _ _)

/-- The exact value in units, for a finite number. -/
def units? : Binary64 → Option Int
  | .nan => none
  | .signed negative rank _ =>
    if rank = Rank.infinity then none
    else if negative then some (-(Rank.units rank : Int)) else some (Rank.units rank)

/-- Every number but the two zeros. -/
def isNonzero : Binary64 → Bool
  | .nan => true
  | .signed _ rank _ => rank != 0

/-- Numerical equality: the zeros agree and not-a-number agrees with nothing. -/
def agrees : Binary64 → Binary64 → Bool
  | .signed n r _, .signed m s _ => r == s && (n == m || r == 0)
  | _, _ => false

/-- Numerical equality with a whole number, without rounding it. -/
def agreesInt (x : Binary64) (n : Int) : Bool := x.units? == some (n * Rank.one)

/-- The place of a number among all numbers, the zeros in one place. -/
def place? : Binary64 → Option Int
  | .nan => none
  | .signed negative rank _ => some (if negative then -(rank : Int) else rank)

/-- Numerical order; not-a-number has none. -/
def compare? (x y : Binary64) : Option Ordering := do return compare (← x.place?) (← y.place?)

/-- Numerical order with respect to a whole number, without rounding it. -/
def compareInt? (x : Binary64) (n : Int) : Option Ordering :=
  match x.units? with
  | some u => some (compare u (n * Rank.one))
  | none => x.compare? .zero

/-- The number nearest to a whole number; none when that would be infinity. -/
def ofInt? (n : Int) : Option Binary64 :=
  let x := round (decide (n < 0)) (n.natAbs * Rank.one) 1
  if x.units?.isSome then some x else none

/-- The correctly rounded quotient of two natural numbers, none past the finite
numbers. -/
def quotient? (numerator denominator : Nat) : Option Binary64 :=
  let x := round false (numerator * Rank.one) denominator
  if x.units?.isSome then some x else none

/-- The sum, rounded once. Opposite infinities have none. -/
def add (x y : Binary64) : Binary64 :=
  match x, y with
  | .nan, _ => .nan
  | _, .nan => .nan
  | .signed n r _, .signed m s _ =>
    match x.units?, y.units? with
    | some a, some b =>
      if a + b = 0 then .signed (n && m && r == 0 && s == 0) 0 (Nat.zero_le _)
      else round (decide (a + b < 0)) (a + b).natAbs 1
    | none, some _ => x
    | some _, none => y
    | none, none => if n = m then x else .nan

/-- The whole number of a finite number toward zero. -/
def truncate? (x : Binary64) : Option Int := x.units?.map fun u => u.tdiv Rank.one

def hexDigit (n : Nat) : Char := (Nat.digitChar (n % 16))

/-- The sixteen hexadecimal digits of the encoded number. -/
def hexadecimal (x : Binary64) : String :=
  let code := match x with
    | .nan => 2047 * Rank.perBinade + Rank.perBinade / 2
    | .signed negative rank _ => (if negative then Nat.pow 2 63 else 0) + rank
  String.ofList ((List.range 16).map fun i => hexDigit (code / Nat.pow 16 (15 - i)))

end Binary64
end ExpiryAudit
