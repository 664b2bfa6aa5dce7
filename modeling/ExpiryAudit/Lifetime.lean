import ExpiryAudit.Setting

/-!
# Lifetimes

An entry ends when its lifetime has passed since its start. Lifetimes are whole
milliseconds, or double precision numbers, with which an end is rounded once and
then compared exactly. Nothing is before, at or after an end that is not a number.
-/
namespace ExpiryAudit

inductive Lifetime where
  | whole (amount : Setting)
  | binary (amount : Binary64)

namespace Lifetime

/-- Reads the lifetime of a rule. -/
def make (written : Json) : Except Fault Lifetime :=
  match written with
  | .float x => match x.compareInt? 0 with
    | some .gt | none => .ok (.binary x)
    | _ => .error (.lifetime written)
  | v => match v.whole? with
    | some n => if h : 0 < n then .ok (.whole ⟨n, written, h⟩) else .error (.lifetime written)
    | none => .error (.lifetimeKind v.kindName)

@[simp] theorem make_int {n : Int} (h : 0 < n) :
    make (.int n) = .ok (.whole (.ofInt n h)) := by
  simp [make, Json.whole?, h, Setting.ofInt]

/-- The lifetime as it was written. -/
def written : Lifetime → Json
  | whole s => s.written
  | binary x => .float x

/-- The end of a lifetime that is no whole number. -/
def binaryEnd (start : Int) (x : Binary64) : Except Fault Binary64 :=
  match Binary64.ofInt? start with
  | some y => .ok (y.add x)
  | none => .error .sumOverflow

/-- The end is before an instant. -/
def endsBefore (start now : Int) : Lifetime → Except Fault Bool
  | whole s => .ok (decide (start + s.amount < now))
  | binary x => do return (← binaryEnd start x).compareInt? now == some .lt

/-- The end is before an instant or at it. -/
def endsBy (start now : Int) : Lifetime → Except Fault Bool
  | whole s => .ok (decide (start + s.amount ≤ now))
  | binary x => do
    let order := (← binaryEnd start x).compareInt? now
    return order == some .lt || order == some .eq

/-- The end is after an instant. -/
def endsAfter (start now : Int) : Lifetime → Except Fault Bool
  | whole s => .ok (decide (now < start + s.amount))
  | binary x => do return (← binaryEnd start x).compareInt? now == some .gt

@[simp] theorem endsBefore_whole (start now : Int) (s : Setting) :
    endsBefore start now (whole s) = .ok (decide (start + s.amount < now)) := rfl

@[simp] theorem endsBy_whole (start now : Int) (s : Setting) :
    endsBy start now (whole s) = .ok (decide (start + s.amount ≤ now)) := rfl

@[simp] theorem endsAfter_whole (start now : Int) (s : Setting) :
    endsAfter start now (whole s) = .ok (decide (now < start + s.amount)) := rfl

/-- The items that a test keeps. The test may fail. -/
def keep {α : Type} (test : α → Except Fault Bool) : List α → Except Fault (List α)
  | [] => .ok []
  | x :: rest => do
    let kept ← test x
    let others ← keep test rest
    return if kept then x :: others else others

/-- A test that does not fail keeps what a filter keeps. -/
theorem keep_ok {α : Type} (test : α → Bool) (items : List α) :
    keep (fun x => .ok (test x)) items = .ok (items.filter test) := by
  induction items with
  | nil => rfl
  | cons x rest ih =>
    cases h : test x <;>
      simp [keep, ih, h, bind, Except.bind, pure, Except.pure]

end Lifetime
end ExpiryAudit
