import ExpiryAudit.Text.Hexadecimal
import ExpiryAudit.Text.Utf8

/-!
# Percent escapes

A byte is escaped as a percent sign and two hexadecimal digits. Bytes that are no character
stay escaped.
-/
namespace ExpiryAudit.Text

def bytesOf (c : Char) : List UInt8 := (String.singleton c).toUTF8.toList

/-- The escape of a byte. -/
def escapedByte (b : UInt8) : List Char := '%' :: (hexadecimal 2 b.toNat).map Char.toUpper

/-- A text with escapes for all characters but the plain ones. -/
def escape (isPlain : Char → Bool) (s : List Char) : List Char :=
  s.flatMap fun c => if isPlain c then [c] else (bytesOf c).flatMap escapedByte

/-- The bytes of a text. Incomplete escapes stand for themselves. -/
def unescapedBytes : List Char → List UInt8
  | '%' :: a :: b :: rest =>
    match hexadecimalValue? a, hexadecimalValue? b with
    | some m, some n => UInt8.ofNat (16 * m + n) :: unescapedBytes rest
    | _, _ => bytesOf '%' ++ unescapedBytes (a :: b :: rest)
  | c :: rest => bytesOf c ++ unescapedBytes rest
  | [] => []

/-- The text of bytes, with escapes for those that are no character. -/
def textOrEscapes : List UInt8 → List Char
  | [] => []
  | b :: rest =>
    match Utf8.decode (b :: rest) with
    | ⟨chars, none⟩ => chars
    | ⟨chars, some broken⟩ =>
      chars ++ (((b :: rest).drop broken.position).take broken.width).flatMap escapedByte ++
        textOrEscapes (rest.drop (broken.position + broken.width - 1))
termination_by bytes => bytes.length

/-- A text with the characters that its escapes stand for. -/
def unescape (s : List Char) : List Char := textOrEscapes (unescapedBytes s)

end ExpiryAudit.Text
