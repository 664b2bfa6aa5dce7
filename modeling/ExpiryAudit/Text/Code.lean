import ExpiryAudit.Text.Hexadecimal
import ExpiryAudit.Text.Split

/-!
# Characters by their codes

Classes of characters are tables of ranges of codes, written in lines: one code or the
first and the last of several, in hexadecimal digits, with blanks between them.
-/
namespace ExpiryAudit.Text

/-- A text as codes. Not every code is that of a character. -/
abbrev Codes := List Nat

def codes (s : List Char) : Codes := s.map Char.toNat

/-- All of it is in ASCII. -/
def areAscii (s : Codes) : Bool := s.all (· < 0x80)

/-- Codes in a row. -/
structure CodeRange where
  first : Nat
  last : Nat
  deriving DecidableEq, Repr

namespace CodeRange

def contains (r : CodeRange) (code : Nat) : Bool := r.first ≤ code && code ≤ r.last

/-- Reads a code, or two of them with a hyphen between them. -/
def read (s : List Char) : CodeRange :=
  let (first, last) := cut '-' s
  ⟨hexadecimalNumber first, hexadecimalNumber (if last.isEmpty then first else last)⟩

end CodeRange

/-- The words in lines. -/
def words (lines : List String) : List (List Char) :=
  lines.flatMap fun line => split (· == ' ') line.toList

/-- The ranges in lines. -/
def readRanges (lines : List String) : List CodeRange := (words lines).map CodeRange.read

/-- The code is in one of the ranges. -/
def isAmong (ranges : List CodeRange) (code : Nat) : Bool := ranges.any (·.contains code)

end ExpiryAudit.Text
