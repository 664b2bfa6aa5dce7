import ExpiryAudit.Proofs.Act
import ExpiryAudit.Sorting

/-!
# Faults of one sort

What a computation fails with is of a sort if everything in it fails only so. A sort by
runs makes no fault of its own: it fails as its comparison does.
-/
namespace ExpiryAudit

/-- The fault, if there is one, is of a sort. -/
def FailsAs {ε α : Type} (E : ε → Prop) (x : Except ε α) : Prop := ∀ e, x = .error e → E e

namespace FailsAs

variable {ε α β γ : Type} {E : ε → Prop}

theorem ok (x : α) : FailsAs E (.ok x) := fun _ h => nomatch h

theorem error {e : ε} (h : E e) : FailsAs E (.error e : Except ε α) := fun _ he =>
  Except.error.inj he ▸ h

theorem bind {x : Except ε α} {f : α → Except ε β} (hx : FailsAs E x)
    (hf : ∀ y, FailsAs E (f y)) : FailsAs E (x >>= f) := by
  cases x with
  | error e => exact error (hx e rfl)
  | ok y => exact hf y

theorem map {x : Except ε α} (f : α → β) (hx : FailsAs E x) : FailsAs E (x.map f) := by
  cases x with
  | error e => exact error (hx e rfl)
  | ok y => exact ok (f y)

theorem mapError {ε' : Type} {f : ε' → ε} {x : Except ε' α} (hf : ∀ e, E (f e)) :
    FailsAs E (x.mapError f) := by
  cases x with
  | error e => exact error (hf e)
  | ok y => exact ok y

theorem ite {c : Prop} [Decidable c] {x y : Except ε α} (hx : FailsAs E x) (hy : FailsAs E y) :
    FailsAs E (if c then x else y) := by
  split
  · exact hx
  · exact hy

theorem mapM {f : α → Except ε β} {xs : List α} (hf : ∀ x, FailsAs E (f x)) :
    FailsAs E (xs.mapM f) := by
  induction xs with
  | nil => exact ok []
  | cons x xs ih =>
    rw [List.mapM_cons]
    exact (hf x).bind fun y => ih.bind fun ys => ok (y :: ys)

theorem foldlM {f : β → α → Except ε β} {xs : List α} {s : β}
    (hf : ∀ s x, FailsAs E (f s x)) : FailsAs E (xs.foldlM f s) := by
  induction xs generalizing s with
  | nil => exact ok s
  | cons x xs ih =>
    rw [List.foldlM_cons]
    exact (hf s x).bind fun _ => ih

end FailsAs

/-! ## Sorts -/

namespace Sorting

variable {α ε : Type} {E : ε → Prop}

section Searches

variable {test : α → Except ε Bool} (htest : ∀ x, FailsAs E (test x))

include htest

theorem failsAs_bisect (early : Bool) (items : Array α) (low high : Nat) :
    FailsAs E (bisect early test items low high) := by
  induction low, high using bisect.induct early items with
  | case1 low high h middle hnone =>
    rw [bisect, if_pos h]
    simp only [middle] at hnone
    simp only [hnone]
    exact .ok high
  | case2 low high h middle x hsome ihLow ihHigh =>
    rw [bisect, if_pos h]
    simp only [middle] at hsome
    simp only [hsome]
    exact (htest x).bind fun found => .ite ihLow ihHigh
  | case3 low high h =>
    rw [bisect, if_neg h]
    exact .ok low

theorem failsAs_leap (items : Array α) (low high : Nat) : FailsAs E (leap test items low high) := by
  induction low, high using leap.induct items with
  | case1 low high h ih =>
    rw [leap, dif_pos h]
    exact (htest _).bind fun found => .ite (.ok _) ih
  | case2 low high h =>
    rw [leap, dif_neg h]
    exact .ok _

theorem failsAs_countBefore (early : Bool) (items : List α) :
    FailsAs E (countBefore early test items) :=
  (failsAs_leap htest _ _ _).bind fun _ => failsAs_bisect htest _ _ _ _

end Searches

variable {before : α → α → Except ε Bool} (hbefore : ∀ x y, FailsAs E (before x y))

include hbefore

/-- Taking items one by one and by leaps lead to one another, with less fuel each time. -/
theorem failsAs_walk_and_jump (backwards : Bool) (fuel : Nat) :
    (∀ patience leftWins rightWins m,
      FailsAs E (walk before backwards patience leftWins rightWins fuel m)) ∧
    ∀ patience m, FailsAs E (jump before backwards patience fuel m) := by
  induction fuel with
  | zero => exact ⟨fun _ _ _ _ => .ok _, fun _ _ => .ok _⟩
  | succ fuel ih =>
    obtain ⟨hwalk, hjump⟩ := ih
    constructor
    · intro patience leftWins rightWins m
      unfold walk
      split
      · refine (hbefore _ _).bind fun isBefore => ?_
        dsimp only
        split
        · exact .ok _
        · exact .ite (hjump _ _) (hwalk _ _ _ _)
      · exact .ok _
    · intro patience m
      unfold jump
      split
      · exact .ok _
      · refine (failsAs_countBefore (fun x => (hbefore _ x).bind fun _ => .ok _) _ _).bind
          fun leftCount => ?_
        dsimp only
        split
        · exact .ok _
        · split
          · exact .ok _
          · exact .ok _
          · refine (failsAs_countBefore (fun x => (hbefore x _).bind fun _ => .ok _) _ _).bind
              fun rightCount => ?_
            split
            · exact .ok _
            · split
              · exact .ok _
              · exact .ite (hjump _ _) (hwalk _ _ _ _)

theorem failsAs_mergeFrom (backwards : Bool) (patience : Nat) (left right : List α) :
    FailsAs E (mergeFrom before backwards patience left right) := by
  unfold mergeFrom
  dsimp only
  split
  · exact .ok _
  · exact (failsAs_walk_and_jump hbefore backwards _).1 _ _ _ _

theorem failsAs_merge (patience : Nat) (left right : List α) :
    FailsAs E (merge before patience left right) := by
  unfold merge
  split
  · exact .ok _
  · refine (failsAs_countBefore (hbefore _) _ _).bind fun front => ?_
    split
    · exact .ok _
    · refine (failsAs_countBefore (fun y => hbefore y _) _ _).bind fun tail => ?_
      dsimp only
      split
      · exact .ok _
      · split <;> exact (failsAs_mergeFrom hbefore _ _ _ _).bind fun _ => .ok _

theorem failsAs_collapse (limit : Nat) (below : List (Pending α)) (patience : Nat)
    (top : List α) : FailsAs E (Stack.collapse before limit patience top below) := by
  induction below generalizing patience top with
  | nil => exact .ok _
  | cons p below ih =>
    unfold Stack.collapse
    exact .ite ((failsAs_merge hbefore _ _ _).bind fun _ => ih _ _) (.ok _)

theorem failsAs_flatten (patience : Nat) (runs : List (List α)) :
    FailsAs E (Stack.flatten before patience runs) := by
  induction patience, runs using Stack.flatten.induct with
  | case1 | case2 =>
    rw [Stack.flatten]
    exact .ok _
  | case3 patience second first =>
    rw [Stack.flatten]
    exact (failsAs_merge hbefore _ _ _).bind fun _ => .ok _
  | case4 patience third second first below h ih =>
    rw [Stack.flatten, if_pos h]
    exact (failsAs_merge hbefore _ _ _).bind ih
  | case5 patience third second first below h ih =>
    rw [Stack.flatten, if_neg h]
    exact (failsAs_merge hbefore _ _ _).bind ih

theorem failsAs_descending (items : List α) (last : α) (done : List α) :
    FailsAs E (descending before last done items) := by
  induction items generalizing last done with
  | nil => exact .ok _
  | cons x rest ih => exact (hbefore _ _).bind fun _ => .ite (ih _ _) (.ok _)

theorem failsAs_ascending (items : List α) (last : α) (done : List α) :
    FailsAs E (ascending before last done items) := by
  induction items generalizing last done with
  | nil => exact .ok _
  | cons x rest ih => exact (hbefore _ _).bind fun _ => .ite (.ok _) (ih _ _)

theorem failsAs_firstRun (items : List α) : FailsAs E (firstRun before items) := by
  unfold firstRun
  split
  · exact (hbefore _ _).bind fun _ =>
      .ite (failsAs_descending hbefore _ _ _) (failsAs_ascending hbefore _ _ _)
  · exact .ok _

theorem failsAs_insertAll (items : List α) (run : Array α) :
    FailsAs E (insertAll before run items) := by
  induction items generalizing run with
  | nil => exact .ok run
  | cons x rest ih =>
    exact (failsAs_bisect (hbefore _) _ _ _ _).bind fun _ => ih _

theorem failsAs_longRun (least : Nat) (items : List α) : FailsAs E (longRun before least items) :=
  (failsAs_firstRun hbefore items).bind fun _ =>
    (failsAs_insertAll hbefore _ _).bind fun _ => .ok _

theorem failsAs_addRuns (count fuel : Nat) (s : Stack α) (items : List α) :
    FailsAs E (addRuns before count s fuel items) := by
  induction fuel generalizing s items with
  | zero => exact .ok s
  | succ fuel ih =>
    cases items with
    | nil => exact .ok s
    | cons x rest =>
      refine (failsAs_longRun hbefore _ _).bind fun _ => .bind ?_ fun _ => ih _ _
      exact (failsAs_collapse hbefore _ _ _ _).bind fun _ => .ok _

/-- A sort fails as its comparison does. -/
theorem failsAs_sort (items : List α) : FailsAs E (sort before items) :=
  (failsAs_longRun hbefore _ items).bind fun _ =>
    (failsAs_addRuns hbefore _ _ _ _).bind fun _ => failsAs_flatten hbefore _ _

end Sorting
end ExpiryAudit
