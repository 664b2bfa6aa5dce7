import ExpiryAudit.Text.WholeNumber

/-!
# Lines

A line feed, a carriage return, or the two together end a line; nothing else
does. Blank characters around a line do not belong to its content.
-/
namespace ExpiryAudit.Text

/-- Appends a text with every line end written as a line feed; `done` is in
reverse. -/
def unifyOnto (done : List Char) : List Char → List Char
  | [] => done.reverse
  | '\r' :: '\n' :: rest => unifyOnto ('\n' :: done) rest
  | '\r' :: rest => unifyOnto ('\n' :: done) rest
  | c :: rest => unifyOnto (c :: done) rest

/-- Every line end as a line feed. -/
def unifyLineEnds (s : List Char) : List Char := unifyOnto [] s

/-- Splits at line feeds; the line under way and the lines done are in reverse. -/
def splitOnto (line : List Char) (done : List (List Char)) : List Char → List (List Char)
  | [] => if line.isEmpty then done.reverse else (line.reverse :: done).reverse
  | '\n' :: rest => splitOnto [] (line.reverse :: done) rest
  | c :: rest => splitOnto (c :: line) done rest

/-- The lines of a text. After a final line feed there is no further line. -/
def splitLines (s : List Char) : List (List Char) := splitOnto [] [] s

/-- The stripped lines of a text, whatever ends them. -/
def lines (s : List Char) : List (List Char) :=
  (splitLines (unifyLineEnds s)).map (strip isBlank)

end ExpiryAudit.Text
