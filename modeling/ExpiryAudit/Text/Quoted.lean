import ExpiryAudit.Text
import ExpiryAudit.Text.Printable

/-!
# Quoted text

A text between single quotes, or between double quotes when it holds a single
quote and no double one. Inside, the backslash and the surrounding quote are
escaped, and unprintable characters and halves of pairs are shown by their code.
-/
namespace ExpiryAudit.Text

/-- One character between the given quotes. -/
def quotedChar (mark c : Char) : List Char :=
  if c == mark || c == '\\' then ['\\', c]
  else if c == '\n' then ['\\', 'n']
  else if c == '\r' then ['\\', 'r']
  else if c == '\t' then ['\\', 't']
  else if isPrintable c then [c]
  else if c.toNat < 0x100 then '\\' :: 'x' :: hexadecimal 2 c.toNat
  else if c.toNat < 0x10000 then '\\' :: 'u' :: hexadecimal 4 c.toNat
  else '\\' :: 'U' :: hexadecimal 8 c.toNat

/-- One code point between the given quotes. -/
def quotedPoint (mark : Char) : Point → List Char
  | .char c => quotedChar mark c
  | half => '\\' :: 'u' :: hexadecimal 4 half.code

def quoteMark (t : Text) : Char :=
  if t.points.contains (.char '\'') && !t.points.contains (.char '"') then '"' else '\''

def quoted (t : Text) : List Char :=
  let mark := quoteMark t
  mark :: t.points.flatMap (quotedPoint mark) ++ [mark]

/-- The quoted form as a string. -/
def quote (t : Text) : String := String.ofList (quoted t)

end ExpiryAudit.Text
