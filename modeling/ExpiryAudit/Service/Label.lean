import ExpiryAudit.Text.Direction
import ExpiryAudit.Text.Folding
import ExpiryAudit.Text.Punycode
import ExpiryAudit.Text.Quoted
import ExpiryAudit.Text.Unit

/-!
# Labels

The parts of the name of a host. A label that is not in ASCII is folded and then written in
Punycode behind a mark. A label with the mark is read back only if it is what is written
for the text that it stands for.
-/
namespace ExpiryAudit.Service

/-- What is wrong with a label. -/
inductive LabelProblem where
  | size
  | length
  | character (code : Nat)
  | mixedDirections
  | openDirection
  | marked
  | punycode (problem : Text.Punycode.Problem)
  | notCanonical (label again : List Char)
  deriving DecidableEq, Repr

/-- A code in quotes. Halves of pairs are shown by their code. -/
def quotedCode (code : Nat) : String := Text.quote (.single (.ofCode code))

def punycodeMessage : Text.Punycode.Problem → String
  | .unfinished => "incomplete punicode string"
  | .digit found => "Invalid extended code point '" ++ String.singleton found ++ "'"
  | .code found => "Invalid character U+" ++ String.ofList (Nat.toDigits 16 found)

def LabelProblem.message : LabelProblem → String
  | size => "label empty or too long"
  | length => "label too long"
  | character code => "Invalid character " ++ quotedCode code
  | mixedDirections => "Violation of BIDI requirement 2"
  | openDirection => "Violation of BIDI requirement 3"
  | marked => "Label starts with ACE prefix"
  | punycode problem =>
    "decoding with 'punycode' codec failed (UnicodeError: " ++ punycodeMessage problem ++ ")"
  | notCanonical label again =>
    "('IDNA does not round-trip', b" ++ Text.quote (String.ofList label) ++ ", b" ++
      Text.quote (String.ofList again) ++ ")"

namespace Label

/-- The mark in front of a label that is written in Punycode. -/
def mark : List Char := "xn--".toList

/-- The most characters of a label. -/
def longest : Nat := 63

def isFit (label : List Char) : Bool := !label.isEmpty && label.length ≤ longest

def fit (label : List Char) : Except LabelProblem (List Char) :=
  if isFit label then .ok label else .error .size

/-- Controls, spaces other than the plain one, private characters and codes that are no
characters. -/
def prohibited : List Text.CodeRange :=
  Text.readRanges [
    "80-a0 340-341 6dd 70f 1680 180e 2000-200f 2028-202f 205f-2063 206a-206f 2ff0-2ffb 3000",
    "d800-f8ff fdd0-fdef feff fff9-ffff 1d173-1d17a 1fffe-1ffff 2fffe-2ffff 3fffe-3ffff",
    "4fffe-4ffff 5fffe-5ffff 6fffe-6ffff 7fffe-7ffff 8fffe-8ffff 9fffe-9ffff afffe-affff",
    "bfffe-bffff cfffe-cffff dfffe-dffff e0001 e0020-e007f efffe-10ffff"]

/-- Text that is written from the right to the left holds no letter of the other direction,
and starts and ends with letters of its own. -/
def checkDirection (s : Text.Codes) : Except LabelProblem Unit :=
  if !s.any Text.isRightToLeft then .ok ()
  else if s.any Text.isLeftToRight then .error .mixedDirections
  else if s.head?.all Text.isRightToLeft && s.getLast?.all Text.isRightToLeft then .ok ()
  else .error .openDirection

/-- The folded text of a label. -/
def prepared (s : Text.Codes) : Except LabelProblem Text.Codes := do
  let s := Text.folded s
  if let some code := s.find? (Text.isAmong prohibited) then throw (.character code)
  checkDirection s
  return s

/-- The characters of codes that are all in ASCII. -/
def basic (s : Text.Codes) : List Char := s.map Char.ofNat

/-- The label in ASCII. -/
def encode (s : Text.Codes) : Except LabelProblem (List Char) := do
  if Text.areAscii s then fit (basic s)
  else
    let s ← prepared s
    if Text.areAscii s then fit (basic s)
    else if (Text.codes mark).isPrefixOf s then throw .marked
    else fit (mark ++ Text.Punycode.encode s)

/-- The text of a label in ASCII. -/
def decode (label : List Char) : Except LabelProblem Text.Codes := do
  if !mark.isPrefixOf label then return Text.codes label
  let s ← (Text.Punycode.decode (label.drop mark.length)).mapError .punycode
  let again ← encode s
  if again = label.map Char.toLower then return s else throw (.notCanonical label again)

/-! ## Names -/

/-- A point of any script. -/
def isPoint (c : Char) : Bool := c == '.' || c == '\u3002' || c == '\uff0e' || c == '\uff61'

/-- The labels of a name, and the point behind the last of them if there is one. -/
def labels (isMark : Char → Bool) (name : List Char) : List (List Char) × List Char :=
  let parts := Text.split isMark name
  if parts.getLast? = some [] then (parts.dropLast, ['.']) else (parts, [])

/-- The name in ASCII. In a name that is in ASCII only the last label may be empty. -/
def encodeName (name : List Char) : Except LabelProblem (List Char) := do
  if name.isEmpty then return []
  else if Text.areAscii (Text.codes name) then
    let parts := Text.split (· == '.') name
    if !parts.dropLast.all isFit then throw .size
    if parts.getLast?.any fun l => longest < l.length then throw .length
    return name
  else
    let (parts, final) := labels isPoint name
    let parts ← parts.mapM fun l => encode (Text.codes l)
    return Text.join ['.'] parts ++ final

/-- The text of a name in ASCII. -/
def decodeName (name : List Char) : Except LabelProblem (List Char) := do
  if name.isEmpty then return []
  let (parts, final) := labels (· == '.') name
  let parts ← parts.mapM decode
  return Text.join ['.'] (parts.map basic) ++ final

end Label
end ExpiryAudit.Service
