import ExpiryAudit.Rule

/-!
# What a correct store returns

From the updates that were accepted and an instant, each rule computes what a
store that drops entries after their lifetime has to return, and compares both
reads of an observation with it.
-/
namespace ExpiryAudit.Rule

/-- The last update, until it expires. -/
def expectedValue (r : Rule) (updates : List Update) (now : Int) : Except Fault Json :=
  match updates.getLast? with
  | none => .ok .null
  | some u => do return if ← r.expired u.window now then .null else u.payload.json

/-- The updates that have not expired. -/
def expectedList (r : Rule) (updates : List Update) (now : Int) : Except Fault Json := do
  let kept ← Lifetime.keep (fun u => r.lasts u.window now) updates
  return .arr (kept.map fun u => u.payload.json)

/-- The last amount and window of every map key, by the first use of the keys. -/
def latestEntries (updates : List Update) :
    Except Fault (List (Text × (Int × Window))) := do
  let entries ← updates.mapM fun u => do
    let (name, n) ← u.payload.mapEntry
    return (name, n, u.window)
  return entries.foldl (fun latest e => Named.insert e.1 e.2 latest) []

/-- The last amount of every map key whose last update has not expired. -/
def expectedMap (r : Rule) (updates : List Update) (now : Int) : Except Fault Json := do
  let latest ← latestEntries updates
  let kept ← Lifetime.keep (fun e => r.lasts e.2.2 now) latest
  return .obj (kept.map fun e => (e.1, .int e.2.1))

/-- The sum that the next update is added to: none at first and after the last
update has expired. -/
def carriedSum (r : Rule) (sum : Json) (last : Option Window) (now : Int) :
    Except Fault Json :=
  match last with
  | some w => do return if ← r.expired w now then .null else sum
  | none => .ok sum

/-- Adds a payload to a sum. Without a sum the payload is the sum. -/
def addTo (sum : Json) (p : Payload) : Except Fault Json :=
  match sum with
  | .null => .ok p.json
  | sum => sum.plus p.json

/-- The sum since the last expiry and the window of the last update. -/
def runningSum (r : Rule) (sum : Json) (last : Option Window) :
    List Update → Except Fault (Json × Option Window)
  | [] => .ok (sum, last)
  | u :: rest => do
    let carried ← r.carriedSum sum last u.window.before
    let sum ← addTo carried u.payload
    runningSum r sum (some u.window) rest

/-- The running sum, until the last update expires. -/
def expectedSum (r : Rule) (updates : List Update) (now : Int) : Except Fault Json := do
  let (sum, last) ← r.runningSum .null none updates
  match last with
  | none => return .null
  | some w => return if ← r.expired w now then .null else sum

def expected (r : Rule) (updates : List Update) (now : Int) : Except Fault Json :=
  match r.kind with
  | .value => r.expectedValue updates now
  | .list => r.expectedList updates now
  | .map => r.expectedMap updates now
  | .reducing => r.expectedSum updates now

/-- Both reads are what a correct store returns, the first before the observed
update and the second after it. -/
def verify (r : Rule) (previous : List Update) (o : Observation) : Except Fault Bool := do
  if !o.valueBefore.agrees (← r.expected previous o.before) then return false
  let u ← o.update
  return o.valueAfter.agrees (← r.expected (previous ++ [u]) o.after)

end ExpiryAudit.Rule
