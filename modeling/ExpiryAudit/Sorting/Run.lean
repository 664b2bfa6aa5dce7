import ExpiryAudit.Sorting.Search

/-!
# Runs

A run is a stretch of items that are in order already. A stretch in which every item
comes before the one in front of it is a run from its end to its start. A run that is
too short takes in the items after it, one by one.
-/
namespace ExpiryAudit.Sorting

variable {α ε : Type} (before : α → α → Except ε Bool)

/-- Splits off the items in front that descend from an item; they come out reversed. -/
def descending (last : α) (done : List α) : List α → Except ε (List α × List α)
  | [] => .ok (done, [])
  | x :: rest => do
    if ← before x last then descending x (x :: done) rest else return (done, x :: rest)

/-- Splits off the items in front of which none comes before the one in front of it. -/
def ascending (last : α) (done : List α) : List α → Except ε (List α × List α)
  | [] => .ok (done.reverse, [])
  | x :: rest => do
    if ← before x last then return (done.reverse, x :: rest) else ascending x (x :: done) rest

/-- The run at the start and the items after it. -/
def firstRun : List α → Except ε (List α × List α)
  | x :: y :: rest => do
    if ← before y x then descending before y [y, x] rest else ascending before y [y, x] rest
  | items => .ok (items, [])

/-- Puts items one by one at their places in a run. -/
def insertAll (run : Array α) : List α → Except ε (Array α)
  | [] => .ok run
  | x :: rest => do
    let i ← bisect false (before x) run 0 run.size
    insertAll (run.insertIdxIfInBounds i x) rest

/-- The run at the start, with as many of the items after it as it needs to have a
least length, and the other items. -/
def longRun (least : Nat) (items : List α) : Except ε (List α × List α) := do
  let (run, rest) ← firstRun before items
  let missing := least - run.length
  return ((← insertAll before run.toArray (rest.take missing)).toList, rest.drop missing)

/-- The least length of the runs among a number of items: at most 64, so that halving
the items a few times leads to it. What is lost by halving is rounded up. -/
def leastRun (lost count : Nat) : Nat :=
  if 64 ≤ count then leastRun (max lost (count % 2)) (count / 2) else count + lost
termination_by count

end ExpiryAudit.Sorting
