import ExpiryAudit.Detector

/-!
# Replaying windows

A sequence of windows is judged one after the other. An ambiguous window empties
the history before it is recorded, as if its update had been retried in the same
window.
-/
namespace ExpiryAudit

/-- The outcome of one window. -/
structure ReplayStep where
  window : Window
  verdict : Detector.Verdict
  /-- How many windows are recorded after this one. -/
  historyLength : Nat
  deriving DecidableEq, Repr

def ReplayStep.toJson (s : ReplayStep) : Json :=
  .obj [("before_ts", .int s.window.before), ("after_ts", .int s.window.after),
    ("ambiguous", .bool s.verdict.isAmbiguous), ("reason", .str s.verdict.reason),
    ("history_length", .int s.historyLength)]

namespace Detector

/-- The history after a window with the given verdict is recorded. -/
def record (verdict : Verdict) (window : Window) (history : List Window) : List Window :=
  (if verdict.isAmbiguous then [] else history) ++ [window]

/-- Judges windows against a history that grows with them. -/
def replayFrom (d : Detector) (history : List Window) : List Window → List ReplayStep
  | [] => []
  | w :: rest =>
    let verdict := d.judge w history
    let history := record verdict w history
    ⟨w, verdict, history.length⟩ :: replayFrom d history rest

def replay (d : Detector) (windows : List Window) : List ReplayStep := d.replayFrom [] windows

end Detector

/-- Replays windows given by their instants. -/
def replayWindows (lifetime : Int) (windows : List (Int × Int)) :
    Except Fault (List ReplayStep) := do
  let d ← Detector.make lifetime
  return d.replay (← windows.mapM fun w => Window.make w.1 w.2)

end ExpiryAudit
