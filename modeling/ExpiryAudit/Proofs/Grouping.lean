import ExpiryAudit.History
import ExpiryAudit.Proofs.Act
import ExpiryAudit.Proofs.JsonReading

/-!
# Objects of slots

Values of slots in the order of the slots make an object of objects that is in order at
both levels. Sorting it sorts the values, and going through it meets the slots in their
order.
-/
namespace ExpiryAudit.History

variable {α β : Type}

/-- Slots in strict order. -/
def InOrder (entries : List (Slot × α)) : Prop := entries.Pairwise fun a b => a.1 < b.1

/-- A slot joins the first group or starts a group of its own. -/
theorem grouped_cons (e : Slot × α) (rest : List (Slot × α)) :
    (∃ slots groups, grouped rest = (e.1.key, slots) :: groups ∧
      grouped (e :: rest) = (e.1.key, (e.1.name, e.2) :: slots) :: groups) ∨
    ((∀ g ∈ (grouped rest).head?, g.1 ≠ e.1.key) ∧
      grouped (e :: rest) = (e.1.key, [(e.1.name, e.2)]) :: grouped rest) := by
  obtain ⟨s, v⟩ := e
  rw [grouped]
  cases hrest : grouped rest with
  | nil => exact .inr ⟨fun _ hg => (nomatch hg), rfl⟩
  | cons g groups =>
    obtain ⟨key, slots⟩ := g
    by_cases hkey : key = s.key
    · subst hkey
      exact .inl ⟨slots, groups, rfl, if_pos rfl⟩
    · refine .inr ⟨fun g hg => ?_, if_neg hkey⟩
      obtain rfl := Option.some.inj hg
      exact hkey

/-- The slots of a group. -/
def slotsOf (g : Text × List (Text × α)) : List (Slot × α) :=
  g.2.map fun x => (⟨g.1, x.1⟩, x.2)

theorem flatMap_grouped (entries : List (Slot × α)) :
    (grouped entries).flatMap slotsOf = entries := by
  induction entries with
  | nil => rfl
  | cons e rest ih =>
    obtain ⟨slots, groups, hrest, hgrouped⟩ | ⟨-, hgrouped⟩ := grouped_cons e rest
    · rw [hrest] at ih
      rw [hgrouped, List.flatMap_cons]
      exact congrArg (e :: ·) ih
    · rw [hgrouped, List.flatMap_cons, ih]
      rfl

theorem ne_nil_of_mem_grouped {entries : List (Slot × α)} {g : Text × List (Text × α)}
    (hg : g ∈ grouped entries) : g.2 ≠ [] := by
  induction entries with
  | nil => cases hg
  | cons e rest ih =>
    obtain ⟨slots, groups, hrest, hgrouped⟩ | ⟨-, hgrouped⟩ := grouped_cons e rest
    · rw [hgrouped] at hg
      rw [hrest] at ih
      rcases List.mem_cons.1 hg with rfl | hg
      · exact List.cons_ne_nil _ _
      · exact ih (List.mem_cons_of_mem _ hg)
    · rw [hgrouped] at hg
      rcases List.mem_cons.1 hg with rfl | hg
      · exact List.cons_ne_nil _ _
      · exact ih hg

/-- What is found in the groups is what was grouped. -/
theorem mem_of_mem_grouped {entries : List (Slot × α)} {g : Text × List (Text × α)}
    (hg : g ∈ grouped entries) {x : Text × α} (hx : x ∈ g.2) :
    (⟨g.1, x.1⟩, x.2) ∈ entries := by
  rw [← flatMap_grouped entries]
  exact List.mem_flatMap.2 ⟨g, hg, List.mem_map.2 ⟨x, hx, rfl⟩⟩

theorem mem_grouped_iff {entries : List (Slot × α)} {s : Slot} {v : α} :
    (∃ slots, (s.key, slots) ∈ grouped entries ∧ (s.name, v) ∈ slots) ↔ (s, v) ∈ entries := by
  constructor
  · rintro ⟨slots, hg, hx⟩
    exact mem_of_mem_grouped hg hx
  · intro hmem
    rw [← flatMap_grouped entries] at hmem
    obtain ⟨g, hg, hmem⟩ := List.mem_flatMap.1 hmem
    obtain ⟨x, hx, he⟩ := List.mem_map.1 hmem
    obtain ⟨rfl, rfl⟩ := Prod.mk.inj he
    exact ⟨g.2, hg, hx⟩

theorem grouped_map (f : α → β) (entries : List (Slot × α)) :
    grouped (entries.map fun e => (e.1, f e.2)) =
      (grouped entries).map fun g => (g.1, g.2.map fun x => (x.1, f x.2)) := by
  induction entries with
  | nil => rfl
  | cons e rest ih =>
    rw [List.map_cons, grouped, ih, grouped]
    cases grouped rest with
    | nil => rfl
    | cons k groups =>
      simp only [List.map_cons]
      split <;> rfl

/-! ## Order -/

theorem InOrder.grouped {entries : List (Slot × α)} (h : InOrder entries) :
    Json.InOrder (grouped entries) := by
  induction entries with
  | nil => exact .nil
  | cons e rest ih =>
    obtain ⟨hfirst, hrest⟩ := List.pairwise_cons.1 h
    have hkeys := ih hrest
    obtain ⟨slots, groups, hgroups, hgrouped⟩ | ⟨hne, hgrouped⟩ := grouped_cons e rest
    · rw [hgroups] at hkeys
      rw [hgrouped]
      exact List.pairwise_cons.2 (List.pairwise_cons.1 hkeys)
    · rw [hgrouped]
      refine List.pairwise_cons.2 ⟨fun k hk => ?_, hkeys⟩
      have hle : ∀ k ∈ History.grouped rest, e.1.key < k.1 ∨ e.1.key = k.1 := by
        intro k hk
        obtain ⟨x, hx⟩ := List.exists_mem_of_ne_nil _ (ne_nil_of_mem_grouped hk)
        exact (hfirst _ (mem_of_mem_grouped hk hx)).imp_right And.left
      cases hgroups : History.grouped rest with
      | nil => rw [hgroups] at hk; cases hk
      | cons k₀ groups =>
        rw [hgroups] at hk hkeys hne hle
        have hhead : e.1.key < k₀.1 :=
          (hle k₀ List.mem_cons_self).resolve_right (Ne.symm (hne k₀ rfl))
        rcases List.mem_cons.1 hk with rfl | hk
        · exact hhead
        · exact Text.lt_trans hhead ((List.pairwise_cons.1 hkeys).1 k hk)

theorem InOrder.slots {entries : List (Slot × α)} (h : InOrder entries)
    {g : Text × List (Text × α)} (hg : g ∈ History.grouped entries) : Json.InOrder g.2 := by
  rw [InOrder, ← flatMap_grouped entries, List.pairwise_flatMap] at h
  refine List.Pairwise.imp ?_ (List.pairwise_map.1 (h.1 g hg))
  rintro x y (hlt | ⟨-, hlt⟩)
  · exact absurd hlt (Text.lt_irrefl _)
  · exact hlt

/-! ## Objects -/

/-- An object of keys, each with an object of names, each with its value. -/
def nested (entries : List (Slot × Json)) : Json :=
  .obj ((grouped entries).map fun g => (g.1, .obj g.2))

variable {entries : List (Slot × Json)}

theorem InOrder.sorted_nested (h : InOrder entries) :
    (nested entries).sorted = nested (entries.map fun e => (e.1, e.2.sorted)) := by
  have hkeys : Json.InOrder ((History.grouped entries).map fun g => (g.1, Json.obj g.2)) :=
    h.grouped.map fun g => Json.obj g.2
  rw [nested, hkeys.sorted_obj, nested, grouped_map Json.sorted, List.map_map,
    List.map_map]
  refine congrArg Json.obj (List.map_congr_left fun g hg => ?_)
  exact Prod.ext rfl (h.slots hg).sorted_obj

/-- An object of slots is restored, if its values are restored as soon as they can be
written. -/
theorem InOrder.restored_nested {room : Nat} (h : InOrder entries)
    (hentries : ∀ e ∈ entries, e.2.isWritable = true → Json.Restored room e.2)
    (hwritable : (nested entries).isWritable = true) : Json.Restored (room + 2) (nested entries) := by
  refine .obj (h.grouped.map fun g => Json.obj g.2).distinct fun m hm => ?_
  obtain ⟨g, hg, rfl⟩ := List.mem_map.1 hm
  have hgroup := Json.isWritable_obj_iff.1 hwritable _ hm
  refine .obj (h.slots hg).distinct fun x hx => ?_
  exact hentries _ (mem_of_mem_grouped hg hx) (Json.isWritable_obj_iff.1 hgroup _ hx)

theorem isWritable_nested (h : ∀ e ∈ entries, e.2.isWritable = true) :
    (nested entries).isWritable = true := by
  refine Json.isWritable_obj_iff.2 fun m hm => ?_
  obtain ⟨g, hg, rfl⟩ := List.mem_map.1 hm
  exact Json.isWritable_obj_iff.2 fun x hx => h _ (mem_of_mem_grouped hg hx)

/-- Going through an object of groups is going through the slots of its groups. -/
theorem foldlM_groups {γ : Type} (step : γ → Slot → Json → Except Fault γ)
    (groups : List (Text × List (Text × Json))) (start : γ) :
    (groups.map fun g => (g.1, Json.obj g.2)).foldlM (fun made (key, slots) => do
      (← slots.members).foldlM (fun made (name, v) => step made ⟨key, name⟩ v) made) start =
      (groups.flatMap slotsOf).foldlM (fun made e => step made e.1 e.2) start := by
  induction groups generalizing start with
  | nil => rfl
  | cons g groups ih =>
    have hslots : (slotsOf g).foldlM (fun made e => step made e.1 e.2) start =
        g.2.foldlM (fun made (name, v) => step made ⟨g.1, name⟩ v) start := by
      rw [slotsOf, List.foldlM_map]
    rw [List.map_cons, List.foldlM_cons, List.flatMap_cons, List.foldlM_append, hslots]
    simp only [ih]
    rfl

theorem foldlM_nested {γ : Type} (step : γ → Slot → Json → Except Fault γ) (start : γ) :
    (do
      (← (nested entries).members).foldlM (fun made (key, slots) => do
        (← slots.members).foldlM (fun made (name, v) => step made ⟨key, name⟩ v) made) start) =
      entries.foldlM (fun made e => step made e.1 e.2) start := by
  have hall := foldlM_groups step (grouped entries) start
  rw [flatMap_grouped] at hall
  exact hall

/-! ## Slots with their updates -/

/-- A slot with the written form of its updates. -/
def writeSlot (encoders : Text → Encoder) (l : Slot × List Update) :
    Except Fault (Slot × Json) := do
  return (l.1, .arr (← l.2.mapM fun u => u.toJson (encoders l.1.name)))

/-- The slot stays and its updates are written one by one. -/
structure WrittenSlot (encoders : Text → Encoder) (l : Slot × List Update) (e : Slot × Json) :
    Prop where
  slot : e.1 = l.1
  updates : ∃ items, e.2 = .arr items ∧
    List.Forall₂ (fun u d => u.toJson (encoders l.1.name) = .ok d) l.2 items

variable {encoders : Text → Encoder}

theorem writeSlot_eq_ok_iff {l : Slot × List Update} {e : Slot × Json} :
    writeSlot encoders l = .ok e ↔ WrittenSlot encoders l e := by
  constructor
  · intro h
    obtain ⟨items, hitems, h⟩ := eq_ok_of_bind_eq_ok h
    cases h
    exact ⟨rfl, items, rfl, mapM_eq_ok_iff.1 hitems⟩
  · rintro ⟨hslot, items, hitems, hupdates⟩
    obtain ⟨s, v⟩ := e
    dsimp only at hslot hitems
    subst hslot hitems
    exact bind_eq_ok (mapM_eq_ok_iff.2 hupdates) rfl

theorem toJson_eq_ok_iff {h : History} {d : Json} : h.toJson encoders = .ok d ↔
    ∃ entries, d = nested entries ∧
      List.Forall₂ (WrittenSlot encoders) h.table.entries entries := by
  have hslots : ∀ {entries}, h.table.entries.mapM (writeSlot encoders) = .ok entries ↔
      List.Forall₂ (WrittenSlot encoders) h.table.entries entries := by
    intro entries
    simp only [mapM_eq_ok_iff, writeSlot_eq_ok_iff]
  constructor
  · intro hwritten
    obtain ⟨entries, hentries, hwritten⟩ := eq_ok_of_bind_eq_ok hwritten
    cases hwritten
    exact ⟨entries, rfl, hslots.1 hentries⟩
  · rintro ⟨entries, rfl, hentries⟩
    exact bind_eq_ok (hslots.2 hentries) rfl

theorem InOrder.written {saved : List (Slot × List Update)} (h : InOrder saved)
    {entries : List (Slot × Json)} (hwritten : List.Forall₂ (WrittenSlot encoders) saved entries) :
    InOrder entries := by
  have hslots : entries.map (·.1) = saved.map (·.1) := by
    rw [← List.forall₂_eq_eq_eq, List.forall₂_map_left_iff, List.forall₂_map_right_iff]
    exact hwritten.flip.imp fun _ _ hl => hl.slot
  have hordered : (entries.map (·.1)).Pairwise (· < ·) := hslots ▸ List.pairwise_map.2 h
  exact List.pairwise_map.1 hordered

end ExpiryAudit.History
