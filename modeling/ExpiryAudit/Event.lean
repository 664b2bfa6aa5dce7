import ExpiryAudit.Json.Access

/-!
# Events

A partition key and an object with one payload for every rule, under the names of
the rules. Updates that are no object are found out when a payload is asked for.
-/
namespace ExpiryAudit

structure Event where
  key : Text
  updates : Json
  key_ne_empty : key ≠ ""

namespace Event

/-- Refuses a key that is no text or is empty. -/
def make (key updates : Json) : Except Fault Event :=
  match key with
  | .str s => if h : s = "" then .error (.key key) else .ok ⟨s, updates, h⟩
  | _ => .error (.key key)

/-- The payload for a rule. -/
def updateFor (e : Event) (rule : Text) : Except Fault Json :=
  match e.updates with
  | .obj members => match Named.find? members rule with
    | some v => .ok v
    | none => .error (.noUpdate e.key rule)
  | v => v.field rule

/-- Reads an event. The updates are looked at before the key. -/
def ofJson (d : Json) : Except Fault Event := do
  let updates ← d.field "updates"
  match updates with
  | .obj _ => make (← d.field "key") updates
  | v => .error (.updates v.kindName)

def toJson (e : Event) : Json := .obj [("key", .str e.key), ("updates", e.updates)]

end Event
end ExpiryAudit
