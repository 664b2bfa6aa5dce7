import ExpiryAudit.Json
import ExpiryAudit.Text.Hexadecimal
import ExpiryAudit.Text.WholeNumber

/-!
# Reading JSON

One value with white space around it. A whole number has neither a fraction nor
an exponent; the names `NaN`, `Infinity` and `-Infinity` are numbers too. A
repeated member keeps its first place and takes its last value. The first
character that does not fit is reported with what was expected there. Whole numbers
have a limit of digits, and containers a limit of depth.
-/
namespace ExpiryAudit.Json

inductive Container where
  | array
  | object
  deriving DecidableEq, Repr

def Container.title : Container → String
  | array => "array"
  | object => "object"

/-- What was wrong with a text. -/
inductive Problem where
  | value
  | memberName
  | colon
  | comma
  | extra
  | openString
  | control
  | escape
  | unicodeEscape
  | byteOrderMark
  | longNumber (digits : Nat)
  | nesting (container : Container)
  deriving DecidableEq, Repr

def Problem.message : Problem → String
  | value => "Expecting value"
  | memberName => "Expecting property name enclosed in double quotes"
  | colon => "Expecting ':' delimiter"
  | comma => "Expecting ',' delimiter"
  | extra => "Extra data"
  | openString => "Unterminated string starting at"
  | control => "Invalid control character at"
  | escape => "Invalid \\escape"
  | unicodeEscape => "Invalid \\uXXXX escape"
  | byteOrderMark => "Unexpected UTF-8 BOM (decode using utf-8-sig)"
  | longNumber digits => Text.longNumberMessage digits
  | nesting container =>
    "maximum recursion depth exceeded while decoding a JSON " ++ container.title ++
      " from a unicode string"

/-- The problem lies at a place in the text, and not in the size of what is there. -/
def Problem.hasPlace : Problem → Bool
  | longNumber _ | nesting _ => false
  | _ => true

/-- A problem and how many characters were left where it was met. -/
structure Stop where
  problem : Problem
  left : Nat
  deriving DecidableEq, Repr

/-- A problem and the number of characters before it. -/
structure Malformed where
  problem : Problem
  position : Nat
  line : Nat
  column : Nat
  deriving DecidableEq, Repr

def isSpace (c : Char) : Bool := c == ' ' || c == '\t' || c == '\n' || c == '\r'

def skipSpace (s : List Char) : List Char := s.dropWhile isSpace

def stop (problem : Problem) (rest : List Char) : Except Stop α :=
  .error ⟨problem, rest.length⟩

/-! ## Numbers -/

def digitsValue (ds : List Char) : Nat := ds.foldl (fun n d => 10 * n + (d.toNat - '0'.toNat)) 0

/-- The digits of the whole part: a zero alone, or digits that start with another. -/
def wholePart (s : List Char) : List Char × List Char :=
  match s with
  | '0' :: rest => (['0'], rest)
  | s => s.span Char.isDigit

/-- A point and at least one digit. -/
def fraction? (s : List Char) : Option (List Char × List Char) :=
  match s with
  | '.' :: rest =>
    let (ds, rest) := rest.span Char.isDigit
    if ds.isEmpty then none else some (ds, rest)
  | _ => none

/-- A letter, perhaps a sign, and at least one digit. -/
def exponent? (s : List Char) : Option (Int × List Char) :=
  match s with
  | e :: rest =>
    if e = 'e' || e = 'E' then
      let (negative, rest) := match rest with
        | '-' :: rest => (true, rest)
        | '+' :: rest => (false, rest)
        | rest => (false, rest)
      let (ds, rest) := rest.span Char.isDigit
      if ds.isEmpty then none
      else some (if negative then -(digitsValue ds : Int) else digitsValue ds, rest)
    else none
  | [] => none

/-- The value of a number without its sign, and what follows it. -/
def unsigned? (negative : Bool) (s : List Char) : Option (Except Stop Json × List Char) :=
  let (whole, rest) := wholePart s
  if whole.isEmpty then none else
  let (places, rest, hasFraction) := match fraction? rest with
    | some (ds, rest) => (ds, rest, true)
    | none => ([], rest, false)
  let (power, rest, hasExponent) := match exponent? rest with
    | some (e, rest) => (e, rest, true)
    | none => (0, rest, false)
  if hasFraction || hasExponent then
    let found : Decimal := ⟨digitsValue (whole ++ places), power - places.length⟩
    some (.ok (.float (found.toBinary64 negative)), rest)
  else if Text.digitLimit < whole.length then some (stop (.longNumber whole.length) rest, rest)
  else some (.ok (.int (if negative then -(digitsValue whole : Int) else digitsValue whole)), rest)

def number? (s : List Char) : Option (Except Stop Json × List Char) :=
  match s with
  | '-' :: rest => unsigned? true rest
  | s => unsigned? false s

/-- The names that stand for values. -/
def names : List (String × Json) :=
  [("null", .null), ("true", .bool true), ("false", .bool false), ("NaN", .float .nan),
    ("Infinity", .float (.infinity false)), ("-Infinity", .float (.infinity true))]

/-- What follows a word at the start of a text. -/
def afterWord? : List Char → List Char → Option (List Char)
  | [], s => some s
  | c :: word, d :: s => if c = d then afterWord? word s else none
  | _ :: _, [] => none

def name? (s : List Char) : Option (Json × List Char) :=
  names.findSome? fun n => (afterWord? n.1.toList s).map fun rest => (n.2, rest)

/-! ## Strings -/

def unit? (a b c d : Char) : Option Nat := do
  let m := 16 * (← Text.hexadecimalValue? a) + (← Text.hexadecimalValue? b)
  let n := 16 * (← Text.hexadecimalValue? c) + (← Text.hexadecimalValue? d)
  return 256 * m + n

/-- The character that follows a backslash. -/
def simpleEscape? : Char → Option Char
  | '"' => some '"'
  | '\\' => some '\\'
  | '/' => some '/'
  | 'b' => some '\x08'
  | 'f' => some '\x0c'
  | 'n' => some '\n'
  | 'r' => some '\r'
  | 't' => some '\t'
  | _ => none

/-- The codes of a string up to its closing quote. `opened` counts the characters
from the opening quote on; the codes done are in reverse. -/
def readCodes (opened : Nat) (done : List Nat) : List Char → Except Stop (List Nat × List Char)
  | [] => .error ⟨.openString, opened⟩
  | '"' :: rest => .ok (done.reverse, rest)
  | ['\\'] => .error ⟨.openString, opened⟩
  | '\\' :: 'u' :: a :: b :: c :: d :: rest =>
    match unit? a b c d with
    | some n =>
      if rest.isEmpty then stop .unicodeEscape ['u', a, b, c, d]
      else readCodes opened (n :: done) rest
    | none => stop .unicodeEscape ('u' :: a :: b :: c :: d :: rest)
  | '\\' :: c :: rest =>
    if c = 'u' then stop .unicodeEscape (c :: rest) else
    match simpleEscape? c with
    | some c => readCodes opened (c.toNat :: done) rest
    | none => stop .escape ('\\' :: c :: rest)
  | c :: rest =>
    if c.toNat < 0x20 then stop .control (c :: rest) else readCodes opened (c.toNat :: done) rest

/-- The string after an opening quote. -/
def readString (opened : Nat) (s : List Char) : Except Stop (Text × List Char) :=
  (readCodes opened [] s).map fun r => (.ofCodes r.1, r.2)

/-! ## Values -/

/-- The most containers that may be open at a time. -/
def depthLimit : Nat := 990

mutual

/-- A value with room for a number of containers in each other. -/
def readValue : Nat → Nat → List Char → Except Stop (Json × List Char)
  | 0, _, s => stop .value s
  | fuel + 1, room, s =>
    match s with
    | '"' :: rest => (readString s.length rest).map fun r => (.str r.1, r.2)
    | '{' :: rest =>
      if room = 0 then stop (.nesting .object) rest else
      match skipSpace rest with
      | '}' :: rest => .ok (.obj [], rest)
      | rest => readMembers fuel (room - 1) [] rest
    | '[' :: rest =>
      if room = 0 then stop (.nesting .array) rest else
      match skipSpace rest with
      | ']' :: rest => .ok (.arr [], rest)
      | rest => readItems fuel (room - 1) [] rest
    | s =>
      match name? s with
      | some r => .ok r
      | none =>
        match number? s with
        | some (found, rest) => found.map fun v => (v, rest)
        | none => stop .value s

/-- Items up to the closing bracket; the items done are in reverse. -/
def readItems : Nat → Nat → List Json → List Char → Except Stop (Json × List Char)
  | 0, _, _, s => stop .value s
  | fuel + 1, room, done, s => do
    let (item, rest) ← readValue fuel room s
    match skipSpace rest with
    | ']' :: rest => .ok (.arr (item :: done).reverse, rest)
    | ',' :: rest => readItems fuel room (item :: done) (skipSpace rest)
    | rest => stop .comma rest

/-- Members up to the closing brace. -/
def readMembers : Nat → Nat → List (Text × Json) → List Char → Except Stop (Json × List Char)
  | 0, _, _, s => stop .memberName s
  | fuel + 1, room, done, s =>
    match s with
    | '"' :: rest => do
      let (name, rest) ← readString s.length rest
      match skipSpace rest with
      | ':' :: rest => do
        let (value, rest) ← readValue fuel room (skipSpace rest)
        let done := Named.insert name value done
        match skipSpace rest with
        | '}' :: rest => .ok (.obj done, rest)
        | ',' :: rest => readMembers fuel room done (skipSpace rest)
        | rest => stop .comma rest
      | rest => stop .colon rest
    | s => stop .memberName s

end

/-- One value and the white space around it. -/
def readAll (s : List Char) : Except Stop Json := do
  let (value, rest) ← readValue (2 * s.length + 2) depthLimit (skipSpace s)
  match skipSpace rest with
  | [] => .ok value
  | rest => stop .extra rest

/-- Where a problem lies: lines are counted from one, and so are the characters
of a line. -/
def locate (problem : Problem) (before : List Char) : Malformed where
  problem := problem
  position := before.length
  line := before.count '\n' + 1
  column := (before.reverse.takeWhile (· != '\n')).length + 1

/-- Reads a text as one value. -/
def parse (s : List Char) : Except Malformed Json :=
  match s with
  | '\ufeff' :: _ => .error (locate .byteOrderMark [])
  | s => (readAll s).mapError fun e => locate e.problem (s.take (s.length - e.left))

end ExpiryAudit.Json
