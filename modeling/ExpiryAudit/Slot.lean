import ExpiryAudit.Text

/-!
# Slots and tables of slots

A slot is a partition key and a name, ordered by key and then by name. A table
keeps one value for each of finitely many slots, in the order of the slots, so
two tables with the same values in the same slots are equal.
-/
namespace ExpiryAudit

structure Slot where
  key : Text
  name : Text
  deriving DecidableEq, Repr

namespace Slot

instance : LT Slot where
  lt a b := a.key < b.key ∨ a.key = b.key ∧ a.name < b.name

instance (a b : Slot) : Decidable (a < b) :=
  inferInstanceAs (Decidable (a.key < b.key ∨ a.key = b.key ∧ a.name < b.name))

theorem lt_irrefl (a : Slot) : ¬a < a := by
  rintro (h | ⟨-, h⟩) <;> exact Text.lt_irrefl _ h

theorem lt_trans {a b c : Slot} (hab : a < b) (hbc : b < c) : a < c := by
  rcases hab with hab | ⟨hk, hab⟩ <;> rcases hbc with hbc | ⟨hk', hbc⟩
  · exact .inl (Text.lt_trans hab hbc)
  · exact .inl (hk' ▸ hab)
  · exact .inl (hk ▸ hbc)
  · exact .inr ⟨hk.trans hk', Text.lt_trans hab hbc⟩

theorem lt_of_not_lt {a b : Slot} (h : ¬b < a) (hne : a ≠ b) : a < b := by
  by_cases hk : a.key = b.key
  · by_cases hn : a.name < b.name
    · exact .inr ⟨hk, hn⟩
    · refine absurd ?_ hne
      have hle : b.name ≤ a.name := Text.not_lt.1 hn
      have hge : a.name ≤ b.name := Text.not_lt.1 fun hlt => h (.inr ⟨hk.symm, hlt⟩)
      have hn := Text.le_antisymm hge hle
      cases a; cases b
      simp_all
  · by_cases hlt : a.key < b.key
    · exact .inl hlt
    · have hle : b.key ≤ a.key := Text.not_lt.1 hlt
      have hge : a.key ≤ b.key := Text.not_lt.1 fun hlt => h (.inl hlt)
      exact absurd (Text.le_antisymm hge hle) hk

theorem ne_of_lt {a b : Slot} (h : a < b) : a ≠ b := fun e => lt_irrefl b (e ▸ h)

end Slot

/-- Values of slots, in the order of the slots. -/
structure SlotTable (α : Type) where
  entries : List (Slot × α)
  sorted : entries.Pairwise fun a b => a.1 < b.1

namespace SlotTable

variable {α : Type}

def empty : SlotTable α := ⟨[], .nil⟩

instance : Inhabited (SlotTable α) := ⟨empty⟩

def get? (t : SlotTable α) (s : Slot) : Option α := (t.entries.find? fun e => e.1 == s).map (·.2)

/-- Sets the value of a slot in a sorted list. -/
def setIn (s : Slot) (v : α) : List (Slot × α) → List (Slot × α)
  | [] => [(s, v)]
  | e :: rest =>
    if e.1 = s then (s, v) :: rest
    else if s < e.1 then (s, v) :: e :: rest
    else e :: setIn s v rest

theorem mem_setIn {s : Slot} {v : α} {l : List (Slot × α)} {e : Slot × α}
    (h : e ∈ setIn s v l) : e = (s, v) ∨ e ∈ l := by
  induction l with
  | nil => simpa [setIn] using h
  | cons d rest ih =>
    unfold setIn at h
    split at h
    · rcases List.mem_cons.1 h with rfl | h
      · exact .inl rfl
      · exact .inr (List.mem_cons_of_mem _ h)
    split at h
    · rcases List.mem_cons.1 h with rfl | h
      · exact .inl rfl
      · exact .inr h
    · rcases List.mem_cons.1 h with rfl | h
      · exact .inr List.mem_cons_self
      · rcases ih h with h | h
        · exact .inl h
        · exact .inr (List.mem_cons_of_mem _ h)

theorem sorted_setIn (s : Slot) (v : α) {l : List (Slot × α)}
    (h : l.Pairwise fun a b => a.1 < b.1) : (setIn s v l).Pairwise fun a b => a.1 < b.1 := by
  induction l with
  | nil => simp [setIn]
  | cons d rest ih =>
    obtain ⟨hd, hrest⟩ := List.pairwise_cons.1 h
    unfold setIn
    split
    · next he => exact List.pairwise_cons.2 ⟨fun e he' => he ▸ hd e he', hrest⟩
    split
    · next hlt =>
      refine List.pairwise_cons.2 ⟨fun e he => ?_, h⟩
      rcases List.mem_cons.1 he with rfl | he
      · exact hlt
      · exact Slot.lt_trans hlt (hd e he)
    · next hne hlt =>
      refine List.pairwise_cons.2 ⟨fun e he => ?_, ih hrest⟩
      rcases mem_setIn he with rfl | he
      · exact Slot.lt_of_not_lt hlt hne
      · exact hd e he

def set (t : SlotTable α) (s : Slot) (v : α) : SlotTable α :=
  ⟨setIn s v t.entries, sorted_setIn s v t.sorted⟩

/-- Leaves out a slot. -/
def erase (t : SlotTable α) (s : Slot) : SlotTable α :=
  ⟨t.entries.filter fun e => e.1 != s, t.sorted.filter _⟩

@[simp] theorem get?_empty (s : Slot) : (empty : SlotTable α).get? s = none := rfl

theorem get?_set (t : SlotTable α) (s r : Slot) (v : α) :
    (t.set s v).get? r = if r = s then some v else t.get? r := by
  obtain ⟨l, h⟩ := t
  simp only [set, get?]
  clear h
  induction l with
  | nil =>
    by_cases hr : r = s
    · simp [setIn, hr]
    · simp [setIn, hr, Ne.symm hr]
  | cons d rest ih =>
    unfold setIn
    by_cases hd : d.1 = s
    · by_cases hr : r = s
      · simp [hd, hr]
      · simp [hd, hr, Ne.symm hr]
    · by_cases hlt : s < d.1
      · by_cases hr : r = s
        · simp [hd, hlt, hr]
        · simp [hd, hlt, hr, Ne.symm hr]
      · by_cases hr : d.1 = r
        · have hrs : ¬r = s := fun e => hd (hr.trans e)
          rw [if_neg hd, if_neg hlt, if_neg hrs]
          simp [hr]
        · simpa [hd, hlt, List.find?_cons, hr] using ih

@[simp] theorem get?_set_self (t : SlotTable α) (s : Slot) (v : α) :
    (t.set s v).get? s = some v := by simp [get?_set]

theorem get?_erase (t : SlotTable α) (s r : Slot) :
    (t.erase s).get? r = if r = s then none else t.get? r := by
  obtain ⟨l, h⟩ := t
  simp only [erase, get?]
  clear h
  induction l with
  | nil => simp
  | cons d rest ih => by_cases hd : d.1 = s <;> by_cases hr : d.1 = r <;> grind

theorem mem_of_get? {t : SlotTable α} {s : Slot} {v : α} (h : t.get? s = some v) :
    (s, v) ∈ t.entries := by
  obtain ⟨e, he, rfl⟩ := Option.map_eq_some_iff.1 h
  have hs : e.1 = s := by simpa using List.find?_some he
  exact hs ▸ List.mem_of_find?_eq_some he

theorem get?_of_mem {t : SlotTable α} {s : Slot} {v : α} (h : (s, v) ∈ t.entries) :
    t.get? s = some v := by
  obtain ⟨l, hl⟩ := t
  simp only [get?] at h ⊢
  induction l with
  | nil => cases h
  | cons d rest ih =>
    obtain ⟨hd, hrest⟩ := List.pairwise_cons.1 hl
    rcases List.mem_cons.1 h with rfl | h
    · simp
    · have hne : d.1 ≠ s := Slot.ne_of_lt (hd _ h)
      simpa [List.find?_cons, hne] using ih hrest h

theorem mem_entries_iff {t : SlotTable α} {s : Slot} {v : α} :
    (s, v) ∈ t.entries ↔ t.get? s = some v := ⟨get?_of_mem, mem_of_get?⟩

/-- Tables that agree on every slot are equal. -/
theorem ext_get? {t u : SlotTable α} (h : ∀ s, t.get? s = u.get? s) : t = u := by
  have hm : ∀ e, e ∈ t.entries ↔ e ∈ u.entries := fun e => by
    rw [show e = (e.1, e.2) from rfl, mem_entries_iff, mem_entries_iff, h]
  obtain ⟨l, hl⟩ := t
  obtain ⟨m, hr⟩ := u
  simp only [SlotTable.mk.injEq] at hm ⊢
  clear h
  induction l generalizing m with
  | nil =>
    cases m with
    | nil => rfl
    | cons e m => exact absurd ((hm e).2 List.mem_cons_self) List.not_mem_nil
  | cons d l ih =>
    cases m with
    | nil => exact absurd ((hm d).1 List.mem_cons_self) List.not_mem_nil
    | cons e m =>
      obtain ⟨hd, hl⟩ := List.pairwise_cons.1 hl
      obtain ⟨he, hrest⟩ := List.pairwise_cons.1 hr
      have hde : d = e := by
        rcases List.mem_cons.1 ((hm d).1 List.mem_cons_self) with h | h
        · exact h
        · rcases List.mem_cons.1 ((hm e).2 List.mem_cons_self) with h' | h'
          · exact h'.symm
          · exact absurd (Slot.lt_trans (hd e h') (he d h)) (Slot.lt_irrefl _)
      subst hde
      refine congrArg _ (ih hl m hrest fun x => ⟨fun hx => ?_, fun hx => ?_⟩)
      · rcases List.mem_cons.1 ((hm x).1 (List.mem_cons_of_mem _ hx)) with rfl | h
        · exact absurd (hd _ hx) (Slot.lt_irrefl _)
        · exact h
      · rcases List.mem_cons.1 ((hm x).2 (List.mem_cons_of_mem _ hx)) with rfl | h
        · exact absurd (he _ hx) (Slot.lt_irrefl _)
        · exact h

end SlotTable
end ExpiryAudit
