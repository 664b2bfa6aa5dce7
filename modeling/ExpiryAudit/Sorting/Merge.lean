import ExpiryAudit.Sorting.Search

/-!
# Merging runs

Two neighbouring runs become one. Items of the left run stay in front of those of the
right one that do not come before them. Merging goes forwards or backwards, from the
end where the shorter run is cheap to set aside. When one run wins often enough in a
row, leaps find how many of its items go next.
-/
namespace ExpiryAudit.Sorting

variable {α ε : Type} (before : α → α → Except ε Bool)

/-- Two runs that are being merged, each from the end that comes next. -/
structure Merging (α : Type) where
  left : List α
  right : List α
  /-- The merged items, the last one first. -/
  done : List α

/-- What comes out of a merge, and how often a run has to win before leaps are tried. -/
structure Merged (α : Type) where
  items : List α
  patience : Nat

namespace Merging

/-- The merged items in the order of the merge. -/
def finish (m : Merging α) (rest : List α) : List α := m.done.reverse ++ rest

/-- The whole of a merge of which the rest is known: one run is used up, or the run
set aside has a single item, which goes last. -/
def settled? (backwards : Bool) (m : Merging α) : Option (List α) :=
  let (aside, other) := if backwards then (m.right, m.left) else (m.left, m.right)
  match other, aside with
  | [], aside => some (m.finish aside)
  | other, [] | other, [_] => some (m.finish (other ++ aside))
  | _, _ => none

def takeLeft (count : Nat) (m : Merging α) : Merging α :=
  ⟨m.left.drop count, m.right, (m.left.take count).reverse ++ m.done⟩

def takeRight (count : Nat) (m : Merging α) : Merging α :=
  ⟨m.left, m.right.drop count, (m.right.take count).reverse ++ m.done⟩

end Merging

/-- Wins in a row that make leaps worth while. -/
def enoughWins : Nat := 7

mutual

/-- Takes items one by one. -/
def walk (backwards : Bool) (patience leftWins rightWins : Nat) :
    Nat → Merging α → Except ε (Merged α)
  | 0, m => .ok ⟨m.finish (m.left ++ m.right), patience⟩
  | fuel + 1, m =>
    match m.left, m.right with
    | x :: _, y :: _ => do
      let isRight := (← before y x) != backwards
      let m := if isRight then m.takeRight 1 else m.takeLeft 1
      match m.settled? backwards with
      | some items => return ⟨items, patience⟩
      | none =>
        let leftWins := if isRight then 0 else leftWins + 1
        let rightWins := if isRight then rightWins + 1 else 0
        if patience ≤ leftWins || patience ≤ rightWins then jump backwards patience fuel m
        else walk backwards patience leftWins rightWins fuel m
    | left, right => .ok ⟨m.finish (left ++ right), patience⟩

/-- Takes all items of the left run that come next and one of the right run, and then
the other way round, as long as that is worth while. -/
def jump (backwards : Bool) (patience : Nat) : Nat → Merging α → Except ε (Merged α)
  | 0, m => .ok ⟨m.finish (m.left ++ m.right), patience⟩
  | fuel + 1, m =>
    match m.right with
    | [] => .ok ⟨m.finish m.left, patience⟩
    | y :: _ => do
      let leftCount ← countBefore backwards (fun x => do return (← before y x) != backwards) m.left
      let m := m.takeLeft leftCount
      match m.settled? backwards with
      | some items => return ⟨items, patience⟩
      | none =>
        let m := m.takeRight 1
        match m.settled? backwards, m.left with
        | some items, _ => return ⟨items, patience⟩
        | none, [] => return ⟨m.finish m.right, patience⟩
        | none, x :: _ =>
          let rightCount ←
            countBefore backwards (fun y => do return (← before y x) == backwards) m.right
          let m := m.takeRight rightCount
          match m.settled? backwards with
          | some items => return ⟨items, patience⟩
          | none =>
            let m := m.takeLeft 1
            match m.settled? backwards with
            | some items => return ⟨items, patience⟩
            | none =>
              if enoughWins ≤ leftCount || enoughWins ≤ rightCount then
                jump backwards (max 1 (patience - 1)) fuel m
              else walk backwards (patience + 1) 0 0 fuel m

end

/-- Merges two runs from one end. The first item is known: it belongs to the run that
is not set aside. -/
def mergeFrom (backwards : Bool) (patience : Nat) (left right : List α) :
    Except ε (Merged α) :=
  let start : Merging α := ⟨left, right, []⟩
  let m := if backwards then start.takeLeft 1 else start.takeRight 1
  match m.settled? backwards with
  | some items => .ok ⟨items, patience⟩
  | none => walk before backwards patience 0 0 (left.length + right.length) m

/-- Merges two neighbouring runs. The items in front of the place of the first right
one, and those behind the place of the last left one, stay where they are. -/
def merge (patience : Nat) (left right : List α) : Except ε (Merged α) := do
  match right with
  | [] => return ⟨left, patience⟩
  | y :: _ =>
    let front ← countBefore false (before y) left
    match (left.drop front).getLast? with
    | none => return ⟨left ++ right, patience⟩
    | some x =>
      let tail ← countBefore true (fun y => before y x) right.reverse
      let ours := left.drop front
      let theirs := right.take (right.length - tail)
      if theirs.isEmpty then return ⟨left ++ right, patience⟩
      let inner ←
        if ours.length ≤ theirs.length then mergeFrom before false patience ours theirs
        else do
          let found ← mergeFrom before true patience ours.reverse theirs.reverse
          pure { found with items := found.items.reverse }
      return ⟨left.take front ++ inner.items ++ right.drop (right.length - tail), inner.patience⟩

end ExpiryAudit.Sorting
