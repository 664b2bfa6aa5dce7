import ExpiryAudit.Text.Code

/-!
# Punycode

A text in ASCII for every text. The characters of ASCII come first, then a hyphen, and then
numbers that say where the others have to be put, in the order of their codes. A number has
digits to the base 36, the lowest first; the last digit is the one below a threshold, and
the thresholds follow the size of the numbers so far.
-/
namespace ExpiryAudit.Text.Punycode

/-- Why a text does not decode. -/
inductive Problem where
  | unfinished
  | digit (found : Char)
  | code (found : Nat)
  deriving DecidableEq, Repr

/-- The first code that is not in ASCII. -/
def firstCode : Nat := 0x80

/-- The last code of a character. -/
def lastCode : Nat := 0x10ffff

/-! ## Digits -/

def digitChar (n : Nat) : Char := Char.ofNat (if n < 26 then 'a'.toNat + n else '0'.toNat + (n - 26))

def digitValue? (c : Char) : Option Nat :=
  let c := c.toLower
  if 'a' ≤ c ∧ c ≤ 'z' then some (c.toNat - 'a'.toNat)
  else if '0' ≤ c ∧ c ≤ '9' then some (c.toNat - '0'.toNat + 26)
  else none

/-- The threshold of the digit at a place. -/
def threshold (bias place : Nat) : Nat := max 1 (min 26 (36 * (place + 1) - bias))

theorem threshold_pos (bias place : Nat) : 0 < threshold bias place := by
  unfold threshold
  omega

/-- The digits of a number from a place on. -/
def digits (bias place n : Nat) : List Char :=
  let t := threshold bias place
  if n < t then [digitChar n]
  else digitChar (t + (n - t) % (36 - t)) :: digits bias (place + 1) ((n - t) / (36 - t))
termination_by n
decreasing_by
  have h := threshold_pos bias place
  exact Nat.lt_of_le_of_lt (Nat.div_le_self _ _) (by omega)

/-- Divides a number by 35 until it is small, and counts 36 for every time. -/
def shrink (n : Nat) : Nat × Nat :=
  if 455 < n then
    let (small, count) := shrink (n / 35)
    (small, count + 36)
  else (n, 0)
termination_by n
decreasing_by omega

/-- The bias after a number, when there are so many characters. -/
def nextBias (n : Nat) (isFirst : Bool) (count : Nat) : Nat :=
  let n := if isFirst then n / 700 else n / 2
  let (small, steps) := shrink (n + n / count)
  steps + 36 * small / (small + 38)

def firstBias : Nat := 72

/-! ## Encoding -/

/-- An encoding under way: the number under way, how many characters are there, and the
digits of the numbers before. -/
structure Encoding where
  number : Nat
  count : Nat
  bias : Nat
  isFirst : Bool
  written : List Char

namespace Encoding

/-- Passes one code of the text while a code is put. -/
def pass (put : Nat) (e : Encoding) (code : Nat) : Encoding :=
  if code < put then { e with number := e.number + 1 }
  else if code = put then
    ⟨0, e.count + 1, nextBias e.number e.isFirst (e.count + 1), false,
      e.written ++ digits e.bias 0 e.number⟩
  else e

/-- Puts a code at all its places; all codes from another one on have been passed. -/
def place (s : Codes) (e : Encoding) (next put : Nat) : Encoding :=
  let e := { e with number := e.number + (put - next) * (e.count + 1) }
  let e := s.foldl (pass put) e
  { e with number := e.number + 1 }

def placeAll (s : Codes) (e : Encoding) (next : Nat) : Codes → Encoding
  | [] => e
  | put :: rest => placeAll s (e.place s next put) (put + 1) rest

end Encoding

/-- Codes in order, each of them once. -/
def inOrder (s : Codes) : Codes := (s.mergeSort (· ≤ ·)).eraseDups

def encode (s : Codes) : List Char :=
  let basic := (s.filter (· < firstCode)).map Char.ofNat
  let others := inOrder (s.filter (firstCode ≤ ·))
  let e := Encoding.placeAll s ⟨0, basic.length, firstBias, true, []⟩ firstCode others
  basic ++ (if basic.isEmpty then [] else ['-']) ++ e.written

/-! ## Decoding -/

/-- A decoding under way: the text so far, the code that was put last and the place behind it,
and the number under way with the weight and the place of its next digit. -/
structure Decoding where
  text : Codes
  code : Nat
  behind : Nat
  bias : Nat
  isFirst : Bool
  number : Nat
  weight : Nat
  place : Nat

namespace Decoding

/-- Puts the code that a whole number stands for. -/
def put (d : Decoding) (number : Nat) : Except Problem Decoding :=
  let count := d.text.length + 1
  let code := d.code + (d.behind + number) / count
  let spot := (d.behind + number) % count
  if lastCode < code then .error (.code code)
  else .ok ⟨d.text.take spot ++ code :: d.text.drop spot, code, spot + 1,
    nextBias number d.isFirst count, false, 0, 1, 0⟩

def read (d : Decoding) (c : Char) : Except Problem Decoding :=
  match digitValue? c with
  | none => .error (.digit c.toUpper)
  | some digit =>
    let number := d.number + digit * d.weight
    let t := threshold d.bias d.place
    if digit < t then d.put number
    else .ok { d with number := number, weight := d.weight * (36 - t), place := d.place + 1 }

end Decoding

def decode (s : List Char) : Except Problem Codes := do
  let (basic, written) := cutLast '-' s
  let start : Decoding := ⟨codes (basic.getD []), firstCode, 0, firstBias, true, 0, 1, 0⟩
  let d ← written.foldlM Decoding.read start
  if d.place = 0 then return d.text else throw .unfinished

end ExpiryAudit.Text.Punycode
