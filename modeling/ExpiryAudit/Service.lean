import ExpiryAudit.Service.Scenario

/-!
# The service

The answers to the value of a body: whether a window clashes with a history, and how a
scenario runs. What counts as nothing, such as a null or an empty container, counts as an
empty object.
-/
namespace ExpiryAudit

namespace Service

/-- A status and a body; without a JSON body it is null. -/
structure Response where
  status : Nat
  json : Json

def failure (status : Nat) (message : Text) : Response :=
  ⟨status, .obj [("error", .str message)]⟩

def empty (status : Nat) : Response := ⟨status, .null⟩

/-! ## Questions about a clash -/

/-- What a check works on: a detector, a candidate, and a history. -/
structure ClashQuery where
  detector : Detector
  candidate : Window
  history : List Window

def ClashQuery.ofJson (data : Json) : Except Fault ClashQuery := do
  let d ← Detector.make (← (← data.field "ttl_ms").toInt)
  let candidate ← Window.ofFields (← data.field "candidate") "before_ts" "after_ts"
  let members ← data.members
  let written ← ((Named.find? members "history").getD (.arr [])).elements
  let history ← written.mapM fun w => Window.ofFields w "before_ts" "after_ts"
  return ⟨d, candidate, history⟩

def windowJson (w : Window) : Json :=
  .obj [("value", .null), ("before_ts", .int w.before), ("after_ts", .int w.after)]

def ClashQuery.answer (q : ClashQuery) : Json :=
  let verdict := q.detector.judge q.candidate q.history
  .obj [("ambiguous", .bool verdict.isAmbiguous), ("reason", .str verdict.reason),
    ("clash_with", match verdict with
      | .clash w => windowJson w
      | _ => .null)]

/-- Input that is wrong is reported; any other fault is the service's own. -/
def checkClash (data : Json) : Response :=
  match ClashQuery.ofJson data with
  | .ok q => ⟨200, q.answer⟩
  | .error f =>
    if f.isRejection then failure 400 ("Invalid request: " ++ f.message) else empty 500

/-! ## Runs of scenarios -/

/-- The scenario that a value names. -/
def scenarioOf? : Json → Option Scenario
  | .str name => Scenario.ofId? name
  | _ => none

/-- A scenario that fails is reported with the message. The stack at that moment, which an
answer shows as well, is left out. -/
def runScenario (s : Scenario) (params : Scenario.Params) : Response :=
  match s.run params with
  | .ok v => ⟨200, v⟩
  | .error f => ⟨200, .obj [("passed", .bool false), ("error", .str f.message)]⟩

def runTest (data : Json) : Response :=
  match data with
  | .obj members =>
    let name := (Named.find? members "scenario").getD .null
    match (Named.find? members "params").getD (.obj []) with
    | .obj params =>
      match scenarioOf? name with
      | some s => runScenario s params
      | none => failure 400 ("Unknown scenario: " ++ name.plain)
    | _ => failure 400 "Invalid request: params must be a JSON object"
  | _ => failure 400 "Invalid request: body must be a JSON object"

/-! ## Bodies -/

/-- The value that an answer is made from. -/
def dataOf (found : Json) : Json := if found.truth then found else .obj []

/-- The answer to what has been found in a body. A fault of finding it is
the service's own. -/
def answerBody (found : Except Fault Json) (answer : Json → Response) : Response :=
  match found with
  | .ok v => answer (dataOf v)
  | .error _ => empty 500

end Service
end ExpiryAudit
