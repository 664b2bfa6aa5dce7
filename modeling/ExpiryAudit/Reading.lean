import ExpiryAudit.Json.Dictionary

/-!
# Readings

What a read of a state counts as: a value, or a dictionary that is no object. No
store that is correct holds such a dictionary, so it agrees with nothing.
-/
namespace ExpiryAudit

inductive Reading where
  | plain (value : Json)
  | dictionary (entries : Json.Dictionary)

namespace Reading

/-- A dictionary counts as an object as long as its keys are texts. -/
def ofDictionary (d : Json.Dictionary) : Reading :=
  match d.members? with
  | some members => plain (.obj members)
  | none => dictionary d

def agrees : Reading → Json → Bool
  | plain v, w => v.agrees w
  | dictionary _, _ => false

/-- The reading inside a message. -/
def display : Reading → String
  | plain v => v.display
  | dictionary d => String.ofList d.shown

/-- The written form. -/
def json : Reading → Json
  | plain v => v
  | dictionary d => d.object

/-- No number of the reading has too many digits. -/
def isWritable : Reading → Bool
  | plain v => v.isWritable
  | dictionary d => d.isWritable

/-- The form that is written, with members in order. Members are put in order before any
of them is written. -/
def written : Reading → Except Fault Json
  | plain v => do return (← v.writable).sorted
  | dictionary d => do (← d.sortedObject).writableIf d.isWritable

@[simp] theorem agrees_plain (v w : Json) : (plain v).agrees w = v.agrees w := rfl

@[simp] theorem isWritable_plain (v : Json) : (plain v).isWritable = v.isWritable := rfl

end Reading
end ExpiryAudit
