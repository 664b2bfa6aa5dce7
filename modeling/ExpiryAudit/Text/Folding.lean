import ExpiryAudit.Text.Folding.Forms
import ExpiryAudit.Text.Folding.Marks

/-!
# Folding

Texts that differ only in case, in the form of characters or in the order of marks are
folded to one text. Every character is replaced by what it stands for, marks are put in
the order of their classes, and letters take the marks that make one character with them.
-/
namespace ExpiryAudit.Text

namespace Folding

/-! ## Syllables

A syllable of Hangul is a leading letter, a vowel and perhaps a trailing letter, and its code
is computed from theirs. -/

def syllables : CodeRange := ⟨0xac00, 0xd7a3⟩

def leading : CodeRange := ⟨0x1100, 0x1112⟩

def vowels : CodeRange := ⟨0x1161, 0x1175⟩

def trailing : CodeRange := ⟨0x11a8, 0x11c2⟩

/-- The number of endings of a syllable; the first of them is to have none. -/
def endings : Nat := 28

/-- The letters of a syllable. -/
def syllableLetters (code : Nat) : Codes :=
  let place := code - syllables.first
  let pair := place / endings
  let letters := [leading.first + pair / 21, vowels.first + pair % 21]
  if place % endings = 0 then letters
  else letters ++ [trailing.first + (place % endings - 1)]

/-- The syllable that two letters make, or a syllable without an ending and its ending. -/
def syllable? (a b : Nat) : Option Nat :=
  if leading.contains a && vowels.contains b then
    some (syllables.first + ((a - leading.first) * 21 + (b - vowels.first)) * endings)
  else if syllables.contains a && (a - syllables.first) % endings == 0 && trailing.contains b then
    some (a + (b - trailing.first) + 1)
  else none

/-! ## Characters and marks -/

/-- What a character stands for. -/
def apart (code : Nat) : Codes :=
  if syllables.contains code then syllableLetters code
  else match foldedForms.find? (·.range.contains code) with
    | some f => f.textOf code
    | none => [code]

/-- Puts a code behind others, which are in reverse. A mark goes in front of marks of
higher classes. -/
def settle (code : Nat) : Codes → Codes
  | [] => [code]
  | other :: rest =>
    if markClass code != 0 && markClass code < markClass other then other :: settle code rest
    else code :: other :: rest

/-- The marks of every letter in the order of their classes. -/
def ordered (s : Codes) : Codes := (s.foldl (fun done code => settle code done) []).reverse

/-- A letter, the marks behind it that it has not taken, and all before it. Both lists are
in reverse. -/
structure Joining where
  done : Codes
  letter : Option Nat
  marks : Codes

namespace Joining

/-- A mark reaches the letter unless one of its class, or one that is no mark, stands
between. -/
def reaches (j : Joining) (code : Nat) : Bool :=
  match j.marks with
  | [] => true
  | mark :: _ => markClass mark < markClass code

def joined? (j : Joining) (code : Nat) : Option Nat := do
  let letter ← j.letter
  if j.reaches code then (syllable? letter code).or (markedLetter? letter code) else none

def toCodes (j : Joining) : Codes := (j.marks ++ j.letter.toList ++ j.done).reverse

def add (j : Joining) (code : Nat) : Joining :=
  match j.joined? code with
  | some made => { j with letter := some made }
  | none =>
    if markClass code = 0 then ⟨j.marks ++ j.letter.toList ++ j.done, some code, []⟩
    else { j with marks := code :: j.marks }

end Joining

/-- Letters with the marks that they take. -/
def joined (s : Codes) : Codes := (s.foldl Joining.add ⟨[], none, []⟩).toCodes

end Folding

def folded (s : Codes) : Codes := Folding.joined (Folding.ordered (s.flatMap Folding.apart))

end ExpiryAudit.Text
