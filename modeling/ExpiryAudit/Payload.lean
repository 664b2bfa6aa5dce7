import ExpiryAudit.Json.Access
import ExpiryAudit.Json.Writer

/-!
# Payloads

What one update carries: a JSON value as it was received, or a tuple as the map
rule builds it from the written form. Both are written as JSON.
-/
namespace ExpiryAudit

inductive Payload where
  | raw (value : Json)
  | tuple (items : List Json)
  deriving Inhabited

namespace Payload

/-- The written form. -/
def json : Payload → Json
  | raw v => v
  | tuple items => .arr items

/-- The pair of a map key and an amount. -/
def entry (name : Text) (amount : Int) : Payload := .tuple [.str name, .int amount]

def kindName : Payload → String
  | raw v => v.kindName
  | tuple _ => "tuple"

/-- The items of an array or a tuple. -/
def items? : Payload → Option (List Json)
  | raw (.arr items) => some items
  | raw _ => none
  | tuple items => some items

/-- The payload inside a message. -/
def display : Payload → String
  | raw v => v.display
  | tuple [v] => "(" ++ v.display ++ ",)"
  | tuple items => "(" ++ String.ofList (Json.shownItems items) ++ ")"

/-- The whole number of an update of the named rule. -/
def amount (rule : Text) : Payload → Except Fault Int
  | raw (.int n) => .ok n
  | p => .error (.amount rule p.kindName)

/-- The map key and the whole number of an update of the map rule. -/
def mapEntry (p : Payload) : Except Fault (Text × Int) :=
  match p.items? with
  | some [.str name, v] => do return (name, ← (raw v).amount "map")
  | some [v, _] => .error (.mapKey v.kindName)
  | _ => .error (.notPair p.display)

@[simp] theorem mapEntry_entry (name : Text) (n : Int) :
    (entry name n).mapEntry = .ok (name, n) := rfl

end Payload
end ExpiryAudit
