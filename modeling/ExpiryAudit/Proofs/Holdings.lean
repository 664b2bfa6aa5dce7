import ExpiryAudit.Proofs.Contents
import ExpiryAudit.Proofs.Writes

/-!
# What slots hold

The entries of a slot as the writes that would make them, each with its stamp, whatever
the kind of the slot. Reads drop entries, a write into an empty slot is all that the slot
holds, and everything outside the slot survives each of them.
-/
namespace ExpiryAudit

namespace SlotTable

variable {α : Type} (t : SlotTable α) (s : Slot)

theorem erase_set (v : α) : (t.set s v).erase s = t.erase s := by
  refine ext_get? fun r => ?_
  rw [get?_erase, get?_erase, get?_set]
  split <;> rfl

theorem erase_erase : (t.erase s).erase s = t.erase s := by
  refine ext_get? fun r => ?_
  rw [get?_erase, get?_erase]
  split <;> rfl

end SlotTable

namespace Tables

variable {lifetime lifetime' : Int} {h : Handle} {now : Int} {t : Tables} {c : Change}

/-- The entries of a slot. -/
def held (h : Handle) (t : Tables) : List (Change × Int) :=
  match h.kind with
  | .value => (t.values.get? h.slot).toList.map fun e => (.replace e.1, e.2)
  | .list => ((t.lists.get? h.slot).getD []).map fun e => (.append e.1, e.2)
  | .map => ((t.maps.get? h.slot).getD []).map fun e => (.put e.1 e.2.1, e.2.2)

theorem held_clear : (t.clear h).held h = [] := by
  unfold held clear
  cases h.kind <;> simp [SlotTable.get?_erase]

/-- A read drops the entries that are no longer alive. -/
theorem held_kept :
    (t.kept lifetime h now).held h = (t.held h).filter fun e => alive lifetime now e.2 := by
  unfold held kept
  cases h.kind with
  | value =>
    cases hfound : t.values.get? h.slot with
    | none => simp [hfound]
    | some e => cases halive : alive lifetime now e.2 <;> simp [hfound, halive, SlotTable.get?_erase]
  | list =>
    simp only [SlotTable.get?_set_self, Option.getD_some, List.filter_map]
    rfl
  | map =>
    simp only [SlotTable.get?_set_self, Option.getD_some, List.filter_map]
    rfl

/-- What is written into an empty slot is all that the slot holds. -/
theorem held_writeAt (hc : c.kind = h.kind) (hempty : t.held h = []) :
    (t.writeAt h now c).held h = [(c, now)] := by
  unfold held at hempty ⊢
  rw [← hc] at hempty ⊢
  cases c with
  | replace v => simp [writeAt, Change.kind]
  | append n =>
    have hnone : (t.lists.get? h.slot).getD [] = [] := List.map_eq_nil_iff.1 hempty
    simp [writeAt, Change.kind, hnone]
  | put name n =>
    have hnone : (t.maps.get? h.slot).getD [] = [] := List.map_eq_nil_iff.1 hempty
    simp [writeAt, Change.kind, hnone, Named.insert]

/-! Tables that are the same once the slot is cleared differ in nothing but this slot. -/

theorem clear_kept : (t.kept lifetime h now).clear h = t.clear h := by
  unfold kept clear
  cases h.kind with
  | value =>
    dsimp only
    split
    · rfl
    · split
      · rfl
      · rw [SlotTable.erase_erase]
  | list => rw [SlotTable.erase_set]
  | map => rw [SlotTable.erase_set]

theorem clear_writeAt (hc : c.kind = h.kind) : (t.writeAt h now c).clear h = t.clear h := by
  unfold clear
  rw [← hc]
  cases c <;> simp only [writeAt, Change.kind, SlotTable.erase_set]

theorem clear_clear : (t.clear h).clear h = t.clear h := by
  unfold clear
  cases h.kind <;> simp only [SlotTable.erase_erase]

/-- Two lifetimes make no difference to a read if they make none to what is held. -/
theorem shown_and_kept_congr
    (hsame : ∀ e ∈ t.held h, alive lifetime now e.2 = alive lifetime' now e.2) :
    t.shown lifetime h now = t.shown lifetime' h now ∧
      t.kept lifetime h now = t.kept lifetime' h now := by
  unfold held at hsame
  unfold shown kept
  cases hk : h.kind with
  | value =>
    rw [hk] at hsame
    cases hfound : t.values.get? h.slot with
    | none => exact ⟨rfl, rfl⟩
    | some e =>
      have he := hsame (.replace e.1, e.2) (by simp [hfound])
      simp only [Option.filter_some, he, and_self]
  | list =>
    rw [hk] at hsame
    have hfilter : ((t.lists.get? h.slot).getD []).filter (fun e => alive lifetime now e.2) =
        ((t.lists.get? h.slot).getD []).filter fun e => alive lifetime' now e.2 :=
      List.filter_congr fun e he => hsame _ (List.mem_map_of_mem he)
    simp only [hfilter, and_self]
  | map =>
    rw [hk] at hsame
    have hfilter : ((t.maps.get? h.slot).getD []).filter (fun e => alive lifetime now e.2.2) =
        ((t.maps.get? h.slot).getD []).filter fun e => alive lifetime' now e.2.2 :=
      List.filter_congr fun e he => hsame _ (List.mem_map_of_mem he)
    simp only [hfilter, and_self]

end Tables
end ExpiryAudit
