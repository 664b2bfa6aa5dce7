import ExpiryAudit.Sorting.Merge
import ExpiryAudit.Sorting.Run

/-!
# Sorting by runs

A sort that uses the order which items already have. Runs are found from the start on
and merged with their neighbours. The boundary between two runs has a power: how often
the whole has to be halved before a cut falls between the middles of the two. Boundaries
of a higher power are merged away first. A comparison may fail, and then the sort
fails; which comparison that is depends on nothing but the items.
-/
namespace ExpiryAudit.Sorting

variable {α ε : Type} (before : α → α → Except ε Bool)

/-- How many binary places of two fractions of a whole are looked at until they
differ. The numerators are those of the fractions. -/
def differingPlace (whole : Nat) : Nat → Nat → Nat → Nat
  | 0, _, _ => 0
  | fuel + 1, a, b =>
    if whole ≤ a then differingPlace whole fuel (2 * (a - whole)) (2 * (b - whole)) + 1
    else if whole ≤ b then 1
    else differingPlace whole fuel (2 * a) (2 * b) + 1

/-- The power of the boundary between a run and the next one. -/
def power (count start first second : Nat) : Nat :=
  let a := 2 * start + first
  differingPlace count (2 * count) a (a + first + second)

/-- A run with the power of the boundary behind it. -/
structure Pending (α : Type) where
  run : List α
  power : Nat

/-- Runs that are not merged yet, the last one first, and the last one of all. -/
structure Stack (α : Type) where
  below : List (Pending α)
  top : List α
  patience : Nat

namespace Stack

/-- The number of items in front of the last run. -/
def start (s : Stack α) : Nat := s.below.foldr (fun p n => p.run.length + n) 0

/-- Merges the last run with those before it whose boundaries have a higher power. -/
def collapse (limit patience : Nat) (top : List α) :
    List (Pending α) → Except ε (Stack α)
  | [] => .ok ⟨[], top, patience⟩
  | p :: below =>
    if limit < p.power then do
      let m ← merge before patience p.run top
      collapse limit m.patience m.items below
    else .ok ⟨p :: below, top, patience⟩

/-- Adds a run. -/
def push (count : Nat) (s : Stack α) (run : List α) : Except ε (Stack α) := do
  let limit := power count s.start s.top.length run.length
  let s ← collapse before limit s.patience s.top s.below
  return ⟨⟨s.top, limit⟩ :: s.below, run, s.patience⟩

/-- Merges all runs. The middle one of the last three is merged with the shorter of
its neighbours. -/
def flatten (patience : Nat) : List (List α) → Except ε (List α)
  | [] => .ok []
  | [run] => .ok run
  | [second, first] => do return (← merge before patience first second).items
  | third :: second :: first :: below =>
    if first.length < third.length then do
      let m ← merge before patience first second
      flatten m.patience (third :: m.items :: below)
    else do
      let m ← merge before patience second third
      flatten m.patience (m.items :: first :: below)
termination_by runs => runs.length

def items (s : Stack α) : Except ε (List α) :=
  flatten before s.patience (s.top :: s.below.map (·.run))

end Stack

/-- Adds the runs of the remaining items. -/
def addRuns (count : Nat) (s : Stack α) : Nat → List α → Except ε (Stack α)
  | 0, _ | _, [] => .ok s
  | fuel + 1, rest => do
    let (run, rest) ← longRun before (leastRun 0 count) rest
    addRuns count (← s.push before count run) fuel rest

/-- The items in order. -/
def sort (items : List α) : Except ε (List α) := do
  let count := items.length
  let (run, rest) ← longRun before (leastRun 0 count) items
  let s ← addRuns before count ⟨[], run, enoughWins⟩ count rest
  s.items before

end ExpiryAudit.Sorting
