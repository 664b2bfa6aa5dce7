import ExpiryAudit.Named
import Mathlib.Data.List.Induction
import Mathlib.Data.List.Nodup

/-!
# Lists of named values with distinct names

With distinct names a list is the function that finds its values, up to order. A list
that is made of settings one after another holds the last setting of every name.
-/
namespace ExpiryAudit.Named

variable {ν : Type v} {α : Type u} {β : Type w}

def Distinct (entries : List (ν × α)) : Prop := (entries.map (·.1)).Nodup

theorem Distinct.tail {e : ν × α} {rest : List (ν × α)} (h : Distinct (e :: rest)) :
    Distinct rest := (List.nodup_cons.1 h).2

theorem Distinct.filter {entries : List (ν × α)} (h : Distinct entries) (p : ν × α → Bool) :
    Distinct (entries.filter p) := (List.filter_sublist.map _).nodup h

theorem Distinct.map {entries : List (ν × α)} (h : Distinct entries) (f : α → β) :
    Distinct (entries.map fun e => (e.1, f e.2)) := by
  simpa [Distinct, Function.comp_def] using h

theorem Distinct.perm {entries others : List (ν × α)} (h : Distinct entries)
    (hp : entries.Perm others) : Distinct others := (hp.map _).nodup_iff.1 h

theorem Distinct.not_mem_of_append {entries rest : List (ν × α)} {e : ν × α}
    (h : Distinct (entries ++ e :: rest)) : e.1 ∉ entries.map (·.1) := by
  intro hmem
  unfold Distinct at h
  rw [List.map_append, List.map_cons] at h
  exact (List.nodup_append.1 h).2.2 _ hmem _ List.mem_cons_self rfl

variable [DecidableEq ν]

theorem find?_eq_none_iff {entries : List (ν × α)} {name : ν} :
    find? entries name = none ↔ name ∉ entries.map (·.1) := by
  induction entries with
  | nil => simp
  | cons e rest ih =>
    rw [find?_cons, List.map_cons, List.mem_cons, not_or]
    by_cases h : e.1 = name
    · simp [h]
    · simp [h, ih, Ne.symm h]

theorem isSome_find?_iff {entries : List (ν × α)} {name : ν} :
    (find? entries name).isSome ↔ name ∈ entries.map (·.1) := by
  rw [← not_iff_not, Option.not_isSome_iff_eq_none, find?_eq_none_iff]

theorem mem_of_find? {entries : List (ν × α)} {name : ν} {value : α}
    (h : find? entries name = some value) : (name, value) ∈ entries := by
  induction entries with
  | nil => cases h
  | cons e rest ih =>
    rw [find?_cons] at h
    split at h
    · next he =>
      cases h
      exact he ▸ List.mem_cons_self
    · exact List.mem_cons_of_mem _ (ih h)

theorem mem_insert {name : ν} {value : α} {entries : List (ν × α)} {e : ν × α}
    (h : e ∈ insert name value entries) : e = (name, value) ∨ e ∈ entries := by
  induction entries with
  | nil => exact .inl (List.mem_singleton.1 h)
  | cons d rest ih =>
    simp only [insert] at h
    split at h
    · next hd =>
      rcases List.mem_cons.1 h with rfl | h
      · exact .inl (congrArg (·, value) hd)
      · exact .inr (List.mem_cons_of_mem _ h)
    · rcases List.mem_cons.1 h with rfl | h
      · exact .inr List.mem_cons_self
      · exact (ih h).imp_right (List.mem_cons_of_mem _)

theorem Distinct.find?_of_mem {entries : List (ν × α)} (hd : Distinct entries) {e : ν × α}
    (he : e ∈ entries) : find? entries e.1 = some e.2 := by
  induction entries with
  | nil => cases he
  | cons d rest ih =>
    rw [find?_cons]
    rcases List.mem_cons.1 he with rfl | he
    · simp
    · have hne : d.1 ≠ e.1 := fun h =>
        (List.nodup_cons.1 hd).1 (List.mem_map.2 ⟨e, he, h.symm⟩)
      rw [if_neg hne]
      exact ih hd.tail he

theorem Distinct.find?_perm {entries others : List (ν × α)} (h : Distinct entries)
    (hperm : entries.Perm others) (name : ν) : find? entries name = find? others name := by
  cases hfind : find? others name with
  | none =>
    rw [find?_eq_none_iff] at hfind ⊢
    exact fun hmem => hfind ((hperm.map _).mem_iff.1 hmem)
  | some v => exact h.find?_of_mem (hperm.mem_iff.2 (mem_of_find? hfind))

theorem find?_map (f : α → β) (entries : List (ν × α)) (name : ν) :
    find? (entries.map fun e => (e.1, f e.2)) name = (find? entries name).map f := by
  induction entries with
  | nil => rfl
  | cons e rest ih =>
    simp only [List.map_cons, find?_cons, ih]
    split <;> rfl

/-- A filter on values leaves out what is found and does not pass. -/
theorem Distinct.find?_filter {entries : List (ν × α)} (hd : Distinct entries) (p : α → Bool)
    (name : ν) :
    find? (entries.filter fun e => p e.2) name = (find? entries name).filter p := by
  induction entries with
  | nil => rfl
  | cons e rest ih =>
    have hrest := ih hd.tail
    by_cases hname : e.1 = name
    · subst hname
      have hnone : find? rest e.1 = none := find?_eq_none_iff.2 (List.nodup_cons.1 hd).1
      rw [hnone, Option.filter_none] at hrest
      cases hp : p e.2 <;> simp [find?_cons, hp, hrest, Option.filter_some]
    · cases hp : p e.2 <;> simp [find?_cons, hp, hrest, hname]

theorem find?_erase (name other : ν) (entries : List (ν × α)) :
    find? (erase name entries) other = if other = name then none else find? entries other := by
  by_cases ho : other = name
  · rw [if_pos ho, ho, find?_erase_self]
  · rw [if_neg ho]
    induction entries with
    | nil => rfl
    | cons e rest ih =>
      unfold erase at ih ⊢
      by_cases he : e.1 = name
      · simp [he, ih, find?_cons, Ne.symm ho]
      · simp [he, ih, find?_cons]

theorem map_fst_insert (name : ν) (value : α) (entries : List (ν × α)) :
    (insert name value entries).map (·.1) =
      if name ∈ entries.map (·.1) then entries.map (·.1) else entries.map (·.1) ++ [name] := by
  induction entries with
  | nil => rfl
  | cons e rest ih =>
    simp only [insert]
    by_cases h : e.1 = name
    · simp [h]
    · rw [if_neg h, List.map_cons, ih]
      by_cases hm : name ∈ rest.map (·.1)
      · simp [hm]
      · simp [hm, Ne.symm h]

theorem Distinct.insert {entries : List (ν × α)} (hd : Distinct entries) (name : ν)
    (value : α) : Distinct (insert name value entries) := by
  unfold Distinct
  rw [map_fst_insert]
  split
  · exact hd
  · next h =>
    refine List.nodup_append.2 ⟨hd, List.nodup_cons.2 ⟨List.not_mem_nil, List.nodup_nil⟩, ?_⟩
    rintro x hx y hy rfl
    exact h (List.mem_singleton.1 hy ▸ hx)

theorem insert_of_not_mem {entries : List (ν × α)} {name : ν} (value : α)
    (h : name ∉ entries.map (·.1)) : insert name value entries = entries ++ [(name, value)] := by
  induction entries with
  | nil => rfl
  | cons e rest ih =>
    rw [List.map_cons, List.mem_cons, not_or] at h
    rw [insert, if_neg (Ne.symm h.1), ih h.2, List.cons_append]

/-- Lists in which the same names are found are equally long. -/
theorem Distinct.length_eq {entries : List (ν × α)} {others : List (ν × β)}
    (hd : Distinct entries) (ho : Distinct others)
    (h : ∀ name, (find? entries name).isSome = (find? others name).isSome) :
    entries.length = others.length := by
  have hmem : ∀ name, name ∈ entries.map (·.1) ↔ name ∈ others.map (·.1) := fun name => by
    rw [← isSome_find?_iff, ← isSome_find?_iff, h]
  have hperm := (List.perm_ext_iff_of_nodup hd ho).2 hmem
  simpa using hperm.length_eq

/-! ## Settings one after another -/

/-- The list that is made of settings one after another. -/
def ofSettings (settings : List (ν × α)) : List (ν × α) :=
  settings.foldl (fun made e => insert e.1 e.2 made) []

/-- The last value that is set under a name. -/
def last? (settings : List (ν × α)) (name : ν) : Option α := find? settings.reverse name

theorem last?_append_singleton (settings : List (ν × α)) (e : ν × α) (name : ν) :
    last? (settings ++ [e]) name = if e.1 = name then some e.2 else last? settings name := by
  simp [last?, find?_cons]

theorem last?_map (f : α → β) (settings : List (ν × α)) (name : ν) :
    last? (settings.map fun e => (e.1, f e.2)) name = (last? settings name).map f := by
  rw [last?, ← List.map_reverse, find?_map, last?]

theorem ofSettings_append_singleton (settings : List (ν × α)) (e : ν × α) :
    ofSettings (settings ++ [e]) = insert e.1 e.2 (ofSettings settings) := by
  simp [ofSettings]

theorem distinct_ofSettings (settings : List (ν × α)) : Distinct (ofSettings settings) := by
  induction settings using List.reverseRecOn with
  | nil => exact List.nodup_nil
  | append_singleton settings e ih =>
    rw [ofSettings_append_singleton]
    exact ih.insert e.1 e.2

/-- Everything in the list was set. -/
theorem mem_of_mem_ofSettings {settings : List (ν × α)} {e : ν × α} (h : e ∈ ofSettings settings) :
    e ∈ settings := by
  induction settings using List.reverseRecOn with
  | nil => exact h
  | append_singleton settings d ih =>
    rw [ofSettings_append_singleton] at h
    rw [List.mem_append, List.mem_singleton]
    exact (mem_insert h).symm.imp_left ih

theorem find?_ofSettings (settings : List (ν × α)) (name : ν) :
    find? (ofSettings settings) name = last? settings name := by
  induction settings using List.reverseRecOn with
  | nil => rfl
  | append_singleton settings e ih =>
    rw [ofSettings_append_singleton, find?_insert, last?_append_singleton, ih]
    simp only [eq_comm]

end ExpiryAudit.Named
