/-!
# Searching ordered items

A test fails on the items in front and succeeds on the others. Bisection finds the
first success between two bounds. A search by leaps first doubles its distance from
the start until a success bounds it, which is quick when that success is near.
-/
namespace ExpiryAudit.Sorting

variable {α ε : Type}

/-- The first success between two bounds. Of two items in the middle the later one
is tested, or the earlier one. -/
def bisect (early : Bool) (test : α → Except ε Bool) (items : Array α) (low high : Nat) :
    Except ε Nat :=
  if low < high then do
    let middle := low + (high - low - early.toNat) / 2
    match items[middle]? with
    | none => return high
    | some x =>
      if ← test x then bisect early test items low middle
      else bisect early test items (middle + 1) high
  else .ok low
termination_by high - low
decreasing_by
  all_goals
    have : early.toNat ≤ 1 := by cases early <;> decide
    omega

/-- The bounds of the first success: all items before the lower one have failed, and
the upper one has succeeded or is the end. -/
def leap (test : α → Except ε Bool) (items : Array α) (low high : Nat) : Except ε (Nat × Nat) :=
  if h : high < items.size then do
    if ← test items[high] then return (low, high)
    else leap test items (high + 1) (2 * high + 1)
  else .ok (low, items.size)
termination_by items.size - high

/-- The number of items before the first success. -/
def countBefore (early : Bool) (test : α → Except ε Bool) (items : List α) : Except ε Nat := do
  let (low, high) ← leap test items.toArray 0 0
  bisect early test items.toArray low high

end ExpiryAudit.Sorting
