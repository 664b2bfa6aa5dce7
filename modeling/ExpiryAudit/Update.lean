import ExpiryAudit.Payload
import ExpiryAudit.Reading
import ExpiryAudit.Window

/-!
# Updates and observations

An update is a payload with the window in which it was applied. An observation
is one cycle of reading, updating and reading again, between two readings of the
clock.
-/
namespace ExpiryAudit

/-- A payload and the window that produced it. -/
structure Update where
  payload : Payload
  window : Window

/-- How a payload is written. -/
abbrev Encoder := Payload → Except Fault Json

/-- How a payload is read back. -/
abbrev Decoder := Json → Except Fault Payload

/-- Writes a payload as it is. -/
def Encoder.plain : Encoder := fun p => .ok p.json

/-- Takes a written value as it is. -/
def Decoder.plain : Decoder := fun v => .ok (.raw v)

namespace Update

def toJson (encode : Encoder) (u : Update) : Except Fault Json := do
  return .obj [("value", ← encode u.payload), ("before_ts", .int u.window.before),
    ("after_ts", .int u.window.after)]

def ofJson (decode : Decoder) (d : Json) : Except Fault Update := do
  let payload ← decode (← d.field "value")
  return ⟨payload, ← Window.ofFields d "before_ts" "after_ts"⟩

end Update

/-- The windows of updates. -/
def windows (updates : List Update) : List Window := updates.map (·.window)

/-- Two reads around one update. -/
structure Observation where
  before : Int
  valueBefore : Reading
  payload : Payload
  valueAfter : Reading
  after : Int

namespace Observation

/-- The update that was observed, unless the clock ran backwards. -/
def update (o : Observation) : Except Fault Update := do
  return ⟨o.payload, ← Window.make o.before o.after⟩

def toJson (encode : Encoder) (o : Observation) : Except Fault Json := do
  return .obj [("before_ts", .int o.before), ("value_before", o.valueBefore.json),
    ("raw_update", ← encode o.payload), ("value_after", o.valueAfter.json),
    ("after_ts", .int o.after)]

/-- The form that is written, with the payload as it is written and members in order. -/
def written (payload : Json) (o : Observation) : Except Fault Json := do
  let after ← (Json.int o.after).writable
  let before ← (Json.int o.before).writable
  let payload ← payload.writable
  let valueAfter ← o.valueAfter.written
  let valueBefore ← o.valueBefore.written
  return .obj [("after_ts", after), ("before_ts", before), ("raw_update", payload.sorted),
    ("value_after", valueAfter), ("value_before", valueBefore)]

end Observation
end ExpiryAudit
