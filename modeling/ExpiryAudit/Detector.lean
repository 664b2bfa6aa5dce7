import ExpiryAudit.Window

/-!
# Ambiguous updates

An update is ambiguous when an entry may or may not have expired while it was
applied: the update itself, if its window spans a whole lifetime, or an earlier
one, if the earlier window moved by the lifetime meets the new one. Meeting in
one instant is enough.
-/
namespace ExpiryAudit

/-- The lifetime of the entries of a store. -/
structure Detector where
  lifetime : Int
  lifetime_pos : 0 < lifetime
  deriving DecidableEq, Repr

namespace Detector

def make (lifetime : Int) : Except Fault Detector :=
  if h : 0 < lifetime then .ok ⟨lifetime, h⟩ else .error (.lifetime (.int lifetime))

/-- The window spans a whole lifetime. -/
def tooSlow (d : Detector) (w : Window) : Bool := decide (d.lifetime ≤ w.after - w.before)

/-- The earlier window moved by the lifetime meets the later one. -/
def clashes (d : Detector) (earlier later : Window) : Bool :=
  decide (later.before ≤ earlier.after + d.lifetime) &&
    decide (earlier.before + d.lifetime ≤ later.after)

/-- The first window that clashes with a candidate. -/
def firstClash (d : Detector) (candidate : Window) (history : List Window) : Option Window :=
  history.find? fun w => d.clashes w candidate

/-- The place of the first window that clashes with a candidate. -/
def firstClashIndex (d : Detector) (candidate : Window) (history : List Window) : Option Nat :=
  history.findIdx? fun w => d.clashes w candidate

/-- How a candidate is judged. -/
inductive Verdict where
  | clean
  | tooSlow
  | clash (earlier : Window)
  deriving DecidableEq, Repr

def Verdict.isAmbiguous : Verdict → Bool
  | .clean => false
  | _ => true

def Verdict.reason : Verdict → String
  | .clean => "CLEAN"
  | .tooSlow => "TOO_SLOW"
  | .clash _ => "CLASH"

def judge (d : Detector) (candidate : Window) (history : List Window) : Verdict :=
  if d.tooSlow candidate then .tooSlow
  else match d.firstClash candidate history with
    | some w => .clash w
    | none => .clean

/-- Whether some entry may have expired inside the candidate window. -/
def isAmbiguous (d : Detector) (candidate : Window) (history : List Window) : Bool :=
  (d.judge candidate history).isAmbiguous

end Detector

/-- The judgement with a detector made for the purpose. -/
def isAmbiguous (lifetime : Int) (candidate : Window) (history : List Window) :
    Except Fault Bool := do
  return (← Detector.make lifetime).isAmbiguous candidate history

end ExpiryAudit
