import ExpiryAudit.Json
import ExpiryAudit.Text.Hexadecimal
import ExpiryAudit.Text.WholeNumber

/-!
# Writing JSON

Everything is written in ASCII: other characters become escapes, those past the
first plane as two surrogates, and so do halves of pairs. The one-line forms differ in
their separators; the indented form puts every item and member on a line of its own. Sorting
orders the members of every object by name.
-/
namespace ExpiryAudit.Json

/-! ## Strings and numbers -/

def unitEscape (n : Nat) : List Char := '\\' :: 'u' :: Text.hexadecimal 4 n

def writeChar (c : Char) : List Char :=
  if c = '"' then ['\\', '"']
  else if c = '\\' then ['\\', '\\']
  else if c = '\n' then ['\\', 'n']
  else if c = '\r' then ['\\', 'r']
  else if c = '\t' then ['\\', 't']
  else if c = '\x0c' then ['\\', 'f']
  else if c = '\x08' then ['\\', 'b']
  else if 0x20 ≤ c.toNat ∧ c.toNat < 0x7f then [c]
  else if c.toNat < 0x10000 then unitEscape c.toNat
  else
    unitEscape (0xd800 + (c.toNat - 0x10000) / 0x400) ++
      unitEscape (0xdc00 + (c.toNat - 0x10000) % 0x400)

def writePoint : Text.Point → List Char
  | .char c => writeChar c
  | half => unitEscape half.code

def writeString (s : Text) : List Char := '"' :: s.points.flatMap writePoint ++ ['"']

/-- The names of the numbers without digits. -/
def spelling : Binary64.Spelling := ⟨"NaN", "Infinity"⟩

/-! ## One line -/

/-- What stands between items and between a name and its value. -/
structure Separators where
  item : List Char
  member : List Char

def Separators.spaced : Separators := ⟨[',', ' '], [':', ' ']⟩

def Separators.compact : Separators := ⟨[','], [':']⟩

mutual

def write (sep : Separators) : Json → List Char
  | null => "null".toList
  | bool true => "true".toList
  | bool false => "false".toList
  | int n => Text.decimal n
  | float x => x.text spelling
  | str s => writeString s
  | arr items => '[' :: writeItems sep items
  | obj members => '{' :: writeMembers sep members

/-- The items and the closing bracket. -/
def writeItems (sep : Separators) : List Json → List Char
  | [] => [']']
  | [v] => write sep v ++ [']']
  | v :: w :: rest => write sep v ++ sep.item ++ writeItems sep (w :: rest)

/-- The members and the closing brace. -/
def writeMembers (sep : Separators) : List (Text × Json) → List Char
  | [] => ['}']
  | [(name, v)] => writeString name ++ sep.member ++ write sep v ++ ['}']
  | (name, v) :: m :: rest =>
    writeString name ++ sep.member ++ write sep v ++ sep.item ++ writeMembers sep (m :: rest)

end

/-! ## What can be written -/

mutual

/-- No whole number in the value has too many digits. -/
def isWritable : Json → Bool
  | int n => Text.isWritable n
  | arr items => areWritable items
  | obj members => areWritableMembers members
  | _ => true

def areWritable : List Json → Bool
  | [] => true
  | v :: rest => isWritable v && areWritable rest

def areWritableMembers : List (Text × Json) → Bool
  | [] => true
  | (_, v) :: rest => isWritable v && areWritableMembers rest

end

/-! ## Sorted members -/

def byName (a b : Text × Json) : Bool := decide (a.1 ≤ b.1)

mutual

/-- The value with the members of every object in the order of their names. -/
def sorted : Json → Json
  | arr items => arr (sortedItems items)
  | obj members => obj ((sortedMembers members).mergeSort byName)
  | v => v

def sortedItems : List Json → List Json
  | [] => []
  | v :: rest => sorted v :: sortedItems rest

def sortedMembers : List (Text × Json) → List (Text × Json)
  | [] => []
  | (name, v) :: rest => (name, sorted v) :: sortedMembers rest

end

/-! ## Indented lines -/

/-- A new line with two blanks for every level. -/
def newLine (level : Nat) : List Char := '\n' :: List.replicate (2 * level) ' '

mutual

def indent (level : Nat) : Json → List Char
  | arr [] => ['[', ']']
  | arr items => '[' :: newLine (level + 1) ++ indentItems (level + 1) items
  | obj [] => ['{', '}']
  | obj members => '{' :: newLine (level + 1) ++ indentMembers (level + 1) members
  | v => write .spaced v

def indentItems (level : Nat) : List Json → List Char
  | [] => newLine (level - 1) ++ [']']
  | [v] => indent level v ++ newLine (level - 1) ++ [']']
  | v :: w :: rest => indent level v ++ ',' :: newLine level ++ indentItems level (w :: rest)

def indentMembers (level : Nat) : List (Text × Json) → List Char
  | [] => newLine (level - 1) ++ ['}']
  | [(name, v)] =>
    writeString name ++ ':' :: ' ' :: indent level v ++ newLine (level - 1) ++ ['}']
  | (name, v) :: m :: rest =>
    writeString name ++ ':' :: ' ' :: indent level v ++ ',' :: newLine level ++
      indentMembers level (m :: rest)

end

/-- One line with sorted members. -/
def line (v : Json) : String := String.ofList (write .spaced v.sorted)

/-- The shortest form, with sorted members. -/
def canonical (v : Json) : String := String.ofList (write .compact v.sorted)

/-- Indented lines with sorted members. -/
def document (v : Json) : String := String.ofList (indent 0 v.sorted)

end ExpiryAudit.Json
