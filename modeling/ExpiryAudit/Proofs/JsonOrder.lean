import ExpiryAudit.Json.Writer
import ExpiryAudit.Proofs.Named

/-!
# Members in order

A list of members that is in strict order is what sorting makes of all its permutations,
and values that have been sorted stay as they are.
-/
namespace ExpiryAudit.Json

theorem sortedItems_eq_map (items : List Json) : sortedItems items = items.map sorted := by
  induction items with
  | nil => rfl
  | cons v rest ih => rw [sortedItems, ih, List.map_cons]

theorem sortedMembers_eq_map (members : List (Text × Json)) :
    sortedMembers members = members.map fun m => (m.1, m.2.sorted) := by
  induction members with
  | nil => rfl
  | cons m rest ih => rw [sortedMembers, ih, List.map_cons]

theorem sorted_arr (items : List Json) : (arr items).sorted = arr (items.map sorted) := by
  rw [sorted, sortedItems_eq_map]

theorem sorted_obj (members : List (Text × Json)) :
    (obj members).sorted = obj ((members.map fun m => (m.1, m.2.sorted)).mergeSort byName) := by
  rw [sorted, sortedMembers_eq_map]

theorem pairwise_mergeSort_byName (members : List (Text × Json)) :
    (members.mergeSort byName).Pairwise fun a b => byName a b = true := by
  apply List.pairwise_mergeSort
  · intro a b c hab hbc
    exact decide_eq_true (Text.le_trans (of_decide_eq_true hab) (of_decide_eq_true hbc))
  · intro a b
    simpa [byName] using Text.le_total a.1 b.1

/-! ## Strict order -/

/-- Every name comes before those after it. -/
def InOrder {α : Type} (members : List (Text × α)) : Prop :=
  members.Pairwise fun a b => a.1 < b.1

namespace InOrder

variable {α β : Type}

theorem distinct {members : List (Text × α)} (h : InOrder members) :
    Named.Distinct members := by
  refine List.pairwise_map.2 (List.Pairwise.imp ?_ h)
  intro a b hlt he
  exact Text.lt_irrefl b.1 (he ▸ hlt)

theorem map {members : List (Text × α)} (h : InOrder members) (f : Text × α → β) :
    InOrder (members.map fun m => (m.1, f m)) := List.pairwise_map.2 h

theorem three {a b c : Text} {x y z : α} (hab : a < b) (hbc : b < c) :
    InOrder [(a, x), (b, y), (c, z)] := by
  refine List.pairwise_cons.2 ⟨?_, List.pairwise_pair.2 hbc⟩
  intro m hm
  rcases List.mem_pair.1 hm with rfl | rfl
  · exact hab
  · exact Text.lt_trans hab hbc

/-- Members in strict order are what sorting makes of them in any order. -/
theorem mergeSort_eq {members others : List (Text × Json)} (ho : InOrder others)
    (h : members.Perm others) : members.mergeSort byName = others := by
  have hsorted : others.Pairwise fun a b => byName a b = true :=
    List.Pairwise.imp (fun hlt => decide_eq_true (Text.not_lt.1 (Text.lt_asymm hlt))) ho
  refine List.Perm.eq_of_pairwise (fun a b ha hb hab hba => ?_) (pairwise_mergeSort_byName members)
    hsorted ((List.mergeSort_perm members byName).trans h)
  have ha : a ∈ others := h.mem_iff.1 (List.mem_mergeSort.1 ha)
  have hname : a.1 = b.1 :=
    Text.le_antisymm (of_decide_eq_true hab) (of_decide_eq_true hba)
  have hvalue := ho.distinct.find?_of_mem hb
  rw [← hname, ho.distinct.find?_of_mem ha] at hvalue
  exact Prod.ext hname (Option.some.inj hvalue)

theorem sorted_obj_of_perm {members others : List (Text × Json)} (ho : InOrder others)
    (h : members.Perm others) :
    (obj members).sorted = obj (others.map fun m => (m.1, m.2.sorted)) := by
  rw [Json.sorted_obj, (ho.map fun m => m.2.sorted).mergeSort_eq (h.map _)]

theorem sorted_obj {members : List (Text × Json)} (h : InOrder members) :
    (obj members).sorted = obj (members.map fun m => (m.1, m.2.sorted)) :=
  h.sorted_obj_of_perm (.refl _)

end InOrder

/-! ## Sorting twice -/

mutual

theorem sorted_sorted (v : Json) : v.sorted.sorted = v.sorted := by
  cases v with
  | arr items =>
    rw [sorted, sorted, sortedItems_eq_map (sortedItems items)]
    exact congrArg arr ((List.map_congr_left (sorted_of_mem_sortedItems items)).trans (List.map_id _))
  | obj members =>
    have hvalues : ((sortedMembers members).mergeSort byName).map (fun m => (m.1, m.2.sorted)) =
        (sortedMembers members).mergeSort byName := by
      refine (List.map_congr_left fun m hm => ?_).trans (List.map_id _)
      exact Prod.ext rfl (sorted_of_mem_sortedMembers members m (List.mem_mergeSort.1 hm))
    rw [sorted, Json.sorted_obj, hvalues, List.mergeSort_of_pairwise (pairwise_mergeSort_byName _)]
  | _ => rfl

theorem sorted_of_mem_sortedItems (items : List Json) : ∀ v ∈ sortedItems items, v.sorted = v := by
  cases items with
  | nil => exact fun _ hv => nomatch hv
  | cons w rest =>
    intro v hv
    rcases List.mem_cons.1 hv with rfl | hv
    · exact sorted_sorted w
    · exact sorted_of_mem_sortedItems rest v hv

theorem sorted_of_mem_sortedMembers (members : List (Text × Json)) :
    ∀ m ∈ sortedMembers members, m.2.sorted = m.2 := by
  cases members with
  | nil => exact fun _ hm => nomatch hm
  | cons e rest =>
    intro m hm
    rcases List.mem_cons.1 hm with rfl | hm
    · exact sorted_sorted e.2
    · exact sorted_of_mem_sortedMembers rest m hm

end

end ExpiryAudit.Json
