import ExpiryAudit.Text.Unit
import ExpiryAudit.Text.Utf8

/-!
# Guessing an encoding

A text shows by a mark in front how many bytes its units have and which of them comes
first. One without a mark that starts with two ASCII characters shows it by its zero bytes.
-/
namespace ExpiryAudit.Text

inductive Encoding where
  | bytes
  | pairs (bigEndian : Bool)
  | quadruples (bigEndian : Bool)
  deriving DecidableEq, Repr

namespace Encoding

/-- The encoding that the first bytes of a text show. Units of single bytes have no
zeros. -/
def guess (text : List UInt8) : Encoding :=
  match text with
  | 0xff :: 0xfe :: 0 :: 0 :: _ => quadruples false
  | 0xff :: 0xfe :: _ => pairs false
  | 0xfe :: 0xff :: _ => pairs true
  | [a, b] =>
    if a = 0 then pairs true
    else if b = 0 then pairs false
    else bytes
  | a :: b :: c :: d :: _ =>
    if a = 0 then (if b = 0 then quadruples true else pairs true)
    else if b = 0 then (if c = 0 && d = 0 then quadruples false else pairs false)
    else bytes
  | _ => bytes

/-- The number that bytes make, the first one the most significant. -/
def number (bytes : List UInt8) : Nat := bytes.foldl (fun n b => 256 * n + b.toNat) 0

def unit (bigEndian : Bool) (bytes : List UInt8) : Nat :=
  number (if bigEndian then bytes else bytes.reverse)

/-- Units of two bytes; there is no half of a unit. -/
def pairUnits? (bigEndian : Bool) : List UInt8 → Option (List Nat)
  | [] => some []
  | a :: b :: rest => (pairUnits? bigEndian rest).map (unit bigEndian [a, b] :: ·)
  | _ => none

/-- Units of four bytes, none of them past the last character. -/
def quadrupleUnits? (bigEndian : Bool) : List UInt8 → Option (List Nat)
  | [] => some []
  | a :: b :: c :: d :: rest =>
    let n := unit bigEndian [a, b, c, d]
    if 0x110000 ≤ n then none else (quadrupleUnits? bigEndian rest).map (n :: ·)
  | _ => none

end Encoding

/-- A character that stands for the half of a pair. -/
def replacement : Char := '\ufffd'

/-- Bytes in which the halves of pairs have become other characters. -/
def replaceHalves : List UInt8 → List UInt8
  | a :: b :: c :: rest =>
    if a = 0xed ∧ 0xa0 ≤ b ∧ b ≤ 0xbf ∧ 0x80 ≤ c ∧ c ≤ 0xbf then
      0xef :: 0xbf :: 0xbd :: replaceHalves rest
    else a :: replaceHalves (b :: c :: rest)
  | bytes => bytes

/-- The text of bytes in the encoding that they show. Halves of pairs are not kept
apart. -/
def guessed? (bytes : List UInt8) : Option (List Char) :=
  match Encoding.guess bytes with
  | .bytes =>
    match Utf8.decode (replaceHalves bytes) with
    | ⟨chars, none⟩ => some chars
    | _ => none
  | .pairs bigEndian =>
    (Encoding.pairUnits? bigEndian bytes).map fun units =>
      (joinPairs (units.map .ofCode)).map (Point.charOr replacement)
  | .quadruples bigEndian =>
    (Encoding.quadrupleUnits? bigEndian bytes).map fun units =>
      units.map fun n => (Point.ofCode n).charOr replacement

end ExpiryAudit.Text
