import ExpiryAudit.Json.Access
import ExpiryAudit.Replay

/-!
# Scenarios

Small questions about ambiguity that can be tried out by hand: a single window
that may be too slow, two windows that may clash, and a sequence of windows. Each
scenario says whether the outcome is the expected one.
-/
namespace ExpiryAudit

inductive Scenario where
  | tooSlow
  | overlap
  | sequence
  deriving DecidableEq, Repr

namespace Scenario

def all : List Scenario := [tooSlow, overlap, sequence]

def id : Scenario → Text
  | tooSlow => "self_too_slow"
  | overlap => "window_overlap"
  | sequence => "update_sequence"

def ofId? (name : Text) : Option Scenario := all.find? fun s => s.id == name

/-! ## Descriptions -/

def numberField (name label : String) (default : Int) : Json :=
  .obj [("name", .str name), ("label", .str label), ("type", .str "number"),
    ("default", .int default)]

/-- The choice between an expected outcome and its opposite. -/
def expectationField : Json :=
  .obj [("name", .str "expect_ambiguous"), ("label", .str "Expect Ambiguous?"),
    ("type", .str "select"), ("default", .str "yes"), ("options", .arr [.str "yes", .str "no"])]

def windowsField : Json :=
  .obj [("name", .str "windows"), ("label", .str "Windows"), ("type", .str "json"),
    ("default", .arr [.arr [.int 0, .int 5], .arr [.int 50, .int 55], .arr [.int 200, .int 205]])]

def title : Scenario → String
  | tooSlow => "Update Slower Than TTL"
  | overlap => "Pairwise Window Overlap"
  | sequence => "Update Sequence"

def description : Scenario → String
  | tooSlow =>
    "An update whose own window spans a whole TTL is ambiguous regardless of history."
  | overlap =>
    "A prior update and a candidate clash when their TTL-shifted windows overlap. " ++
      "Equality counts as a clash."
  | sequence =>
    "Replay a list of [before, after] windows; history is reset whenever an update is ambiguous."

def fields : Scenario → List Json
  | tooSlow =>
    [numberField "ttl_ms" "TTL (ms)" 100, numberField "before_ts" "Before (ms)" 0,
      numberField "after_ts" "After (ms)" 100, expectationField]
  | overlap =>
    [numberField "ttl_ms" "TTL (ms)" 50, numberField "prev_before_ts" "Prior Before (ms)" 90,
      numberField "prev_after_ts" "Prior After (ms)" 100,
      numberField "before_ts" "Candidate Before (ms)" 140,
      numberField "after_ts" "Candidate After (ms)" 145, expectationField]
  | sequence =>
    [numberField "ttl_ms" "TTL (ms)" 100, windowsField,
      numberField "expected_history_length" "Expected Final History Length" 3]

def toJson (s : Scenario) : Json :=
  .obj [("id", .str s.id), ("name", .str s.title), ("description", .str s.description),
    ("fields", .arr s.fields)]

/-! ## Runs -/

abbrev Params := List (Text × Json)

/-- An ambiguous outcome is expected unless the parameters say something else. -/
def expectsAmbiguity (params : Params) : Bool :=
  ((Named.find? params "expect_ambiguous").getD (.str "yes")).agrees (.str "yes")

def detector (params : Params) : Except Fault Detector := do
  Detector.make (← (← (Json.obj params).field "ttl_ms").toInt)

def judgement (ambiguous expected : Bool) (explanation : String) : Json :=
  .obj [("passed", .bool (ambiguous == expected)), ("ambiguous", .bool ambiguous),
    ("expected_ambiguous", .bool expected), ("explanation", .str explanation)]

/-- A whole number inside an explanation. -/
def numberText (n : Int) : Except Fault String :=
  if Text.isWritable n then .ok (Text.decimalText n) else .error .unwritable

def explainTooSlow (d : Detector) (w : Window) : Except Fault String := do
  let outcome := if d.tooSlow w then "too slow, expiry may have fired mid-update"
    else "fast enough"
  return "Update took " ++ (← numberText w.duration) ++ "ms with ttl=" ++
    (← numberText d.lifetime) ++ "ms: " ++ outcome

def runTooSlow (params : Params) : Except Fault Json := do
  let d ← detector params
  let w ← Window.ofFields (.obj params) "before_ts" "after_ts"
  return judgement (d.isAmbiguous w []) (expectsAmbiguity params) (← explainTooSlow d w)

/-- The two inequalities of a clash, each with its outcome. -/
def explainOverlap (d : Detector) (earlier w : Window) : Except Fault String := do
  let first := earlier.after + d.lifetime
  let second := earlier.before + d.lifetime
  return "prev.after+ttl=" ++ (← numberText first) ++ " >= before=" ++
    (← numberText w.before) ++ ": " ++ (Json.bool (decide (w.before ≤ first))).display ++
    "; prev.before+ttl=" ++ (← numberText second) ++ " <= after=" ++
    (← numberText w.after) ++ ": " ++ (Json.bool (decide (second ≤ w.after))).display

def runOverlap (params : Params) : Except Fault Json := do
  let d ← detector params
  let earlier ← Window.ofFields (.obj params) "prev_before_ts" "prev_after_ts"
  let w ← Window.ofFields (.obj params) "before_ts" "after_ts"
  return judgement (d.isAmbiguous w [earlier]) (expectsAmbiguity params)
    (← explainOverlap d earlier w)

/-- The history length after the last window. -/
def finalLength (steps : List ReplayStep) : Nat :=
  match steps.getLast? with
  | some s => s.historyLength
  | none => 0

def clashCount (steps : List ReplayStep) : Nat := steps.countP fun s => s.verdict.isAmbiguous

/-- The expected length, if one is given, is the final one. -/
def lengthAgrees (expected : Json) (length : Nat) : Except Fault Bool :=
  match expected with
  | .null => .ok true
  | v => do return (length : Int) == (← v.toInt)

def runSequence (params : Params) : Except Fault Json := do
  let written ← (← (Json.obj params).field "windows").elements
  let windows ← written.mapM fun w => do
    let (b, a) ← w.pair
    return (← b.toInt, ← a.toInt)
  let steps ← replayWindows (← (← (Json.obj params).field "ttl_ms").toInt) windows
  let expected := (Named.find? params "expected_history_length").getD .null
  let passed ← lengthAgrees expected (finalLength steps)
  return .obj [("passed", .bool passed), ("verdicts", .arr (steps.map ReplayStep.toJson)),
    ("history_length", .int (finalLength steps)), ("clashes", .int (clashCount steps))]

def run (s : Scenario) (params : Params) : Except Fault Json :=
  match s with
  | tooSlow => runTooSlow params
  | overlap => runOverlap params
  | sequence => runSequence params

end Scenario
end ExpiryAudit
