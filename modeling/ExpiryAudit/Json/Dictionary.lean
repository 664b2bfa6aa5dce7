import ExpiryAudit.Json.Access
import ExpiryAudit.Sorting

/-!
# Dictionaries

A dictionary has keys of every simple kind. Keys that agree are one key: the first
of them stays, with the value that came last. Dictionaries with only texts as keys
are objects; all others are put in order by comparing keys, and keys that cannot be
compared are a fault.
-/
namespace ExpiryAudit.Json

/-- What may be a key. -/
inductive Key where
  | null
  | bool (value : Bool)
  | int (value : Int)
  | float (value : Binary64)
  | text (value : Text)

namespace Key

/-- The key that a value gives. Containers give none. -/
def ofJson : Json → Except Fault Key
  | .null => .ok null
  | .bool b => .ok (bool b)
  | .int n => .ok (int n)
  | .float x => .ok (float x)
  | .str s => .ok (text s)
  | v => .error (.notKey v.kindName)

/-- The key as a value. -/
def json : Key → Json
  | null => .null
  | bool b => .bool b
  | int n => .int n
  | float x => .float x
  | text s => .str s

/-- Both keys are one key. Here not-a-number is one key, too. -/
def same (a b : Key) : Bool := areNan a.json b.json || agrees a.json b.json

/-- The name of a member that has this key. -/
def name : Key → Text
  | text s => s
  | key => String.ofList (write .spaced key.json)

/-- Numerical order of the values that are numbers. -/
def numberBefore? (a b : Json) : Option Bool :=
  match a, b with
  | .float x, .float y => some (x.compare? y == some .lt)
  | .float x, b => b.whole?.map fun m => x.compareInt? m == some .lt
  | a, .float y => a.whole?.map fun n => y.compareInt? n == some .gt
  | a, b => do return decide ((← a.whole?) < (← b.whole?))

/-- One key comes before another. Only numbers, and only texts, have an order. -/
def before (a b : Key) : Except Fault Bool :=
  match a, b with
  | text s, text t => .ok (decide (s < t))
  | a, b => match numberBefore? a.json b.json with
    | some answer => .ok answer
    | none => .error (.unordered a.json.kindName b.json.kindName)

end Key

abbrev Dictionary := List (Key × Json)

namespace Dictionary

/-- Sets the value of a key. -/
def insert (key : Key) (value : Json) : Dictionary → Dictionary
  | [] => [(key, value)]
  | (k, v) :: rest =>
    if k.same key then (k, value) :: rest else (k, v) :: insert key value rest

/-- The key and the value of an item that has exactly two. -/
def entry (index : Nat) (item : Json) : Except Fault (Key × Json) :=
  match item.items? with
  | some [key, v] => do return (← Key.ofJson key, v)
  | some items => .error (.entryLength index items.length)
  | none => .error (.notEntry index)

/-- The members of an object, or the entries that pairs of a key and a value make. -/
def ofJson : Json → Except Fault Dictionary
  | .obj members => .ok (members.map fun m => (.text m.1, m.2))
  | v => do
    (← v.elements).zipIdx.foldlM (fun made (item, index) => do
      let (key, x) ← entry index item
      return insert key x made) []

/-- The members, if all keys are texts. -/
def members? : Dictionary → Option (List (Text × Json))
  | [] => some []
  | (.text name, v) :: rest => (members? rest).map ((name, v) :: ·)
  | _ => none

/-- Every entry as a member, in the order of the entries. -/
def object (d : Dictionary) : Json := .obj (d.map fun e => (e.1.name, e.2))

/-- No number of the dictionary has too many digits. -/
def isWritable (d : Dictionary) : Bool := d.all fun e => e.1.json.isWritable && e.2.isWritable

/-- The entries inside a message. -/
def shown (d : Dictionary) : List Char :=
  '{' :: List.intercalate [',', ' '] (d.map fun e => e.1.json.shown ++ ':' :: ' ' :: e.2.shown) ++
    ['}']

/-! ## Order -/

/-- The entries in the order of their keys. -/
def sort (d : Dictionary) : Except Fault Dictionary := Sorting.sort (fun a b => a.1.before b.1) d

/-- An object whose members are in the order of the keys. Texts have the order of
members everywhere else. -/
def sortedObject (d : Dictionary) : Except Fault Json :=
  match d.members? with
  | some members => .ok (Json.obj members).sorted
  | none => do return .obj ((← d.sort).map fun e => (e.1.name, e.2.sorted))

end Dictionary
end ExpiryAudit.Json
