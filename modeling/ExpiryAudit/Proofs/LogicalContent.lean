import ExpiryAudit.Proofs.Ledger
import ExpiryAudit.Proofs.Restoration
import Mathlib.Algebra.BigOperators.Group.Finset.Basic
import Mathlib.Data.List.DropRight

/-!
# Logical content

Updates are appended and slots are cleared in any order, directly or in the view of a key. What a
history then holds in a slot are the updates that were appended to the slot since it was last
cleared. Its size, what it is written as and the checkpoint that is saved for it depend on nothing
else.
-/
namespace ExpiryAudit

/-! ## Operations -/

/-- A change of a history. -/
inductive Operation
  | append (s : Slot) (u : Update)
  | clear (s : Slot)
  | track (t : Tracker) (name : Text) (u : Update)
  | reset (t : Tracker) (name : Text)

namespace Operation

/-- The slot that changes. -/
def slot : Operation → Slot
  | append s _ | clear s => s
  | track t name _ | reset t name => ⟨t.key, name⟩

/-- The update that is appended. The other operations clear. -/
def update? : Operation → Option Update
  | append _ u | track _ _ u => some u
  | clear _ | reset _ _ => none

def run (h : History) : Operation → History
  | append s u => h.append s u
  | clear s => h.clear s
  | track t name u => t.append h name u
  | reset t name => t.reset h name

/-- The same change of a ledger. -/
def enter (l : Ledger) (o : Operation) : Ledger :=
  match o.update? with
  | some u => l.append o.slot u
  | none => l.clear o.slot

/-- What becomes of the updates of the slot. -/
def change (updates : List Update) (o : Operation) : List Update :=
  match o.update? with
  | some u => updates ++ [u]
  | none => []

theorem run_eq (h : History) (o : Operation) : o.run h =
    match o.update? with
    | some u => h.append o.slot u
    | none => h.clear o.slot := by
  cases o <;> rfl

/-- An operation changes its slot and no other. -/
theorem load_run (h : History) (o : Operation) (s : Slot) :
    (o.run h).load s = if o.slot = s then change (h.load s) o else h.load s := by
  rw [run_eq, change]
  by_cases hs : o.slot = s
  · subst hs
    cases o.update? <;> simp [History.load_append, History.load_clear]
  · cases o.update? <;> simp [History.load_append, History.load_clear, hs, Ne.symm hs]

theorem history_enter (l : Ledger) (o : Operation) : (o.enter l).history = o.run l.history := by
  rw [run_eq, enter]
  cases o.update? with
  | none => exact l.history_clear _
  | some u => exact l.history_append _ u

end Operation

/-- The operations on a slot. -/
def onSlot (s : Slot) (ops : List Operation) : List Operation := ops.filter fun o => o.slot = s

/-- The updates of a slot that had some at the start, after operations on the slot: those that
were appended since the last clear, after those of the start if there was no clear. -/
def recorded (start : List Update) (ops : List Operation) : List Update :=
  (if ops.any fun o => o.update?.isNone then [] else start) ++
    (ops.rtakeWhile fun o => o.update?.isSome).filterMap (·.update?)

theorem foldl_change (start : List Update) (ops : List Operation) :
    ops.foldl Operation.change start = recorded start ops := by
  induction ops using List.reverseRecOn with
  | nil => simp [recorded]
  | append_singleton ops o ih =>
    rw [List.foldl_append, ih, List.foldl_cons, List.foldl_nil, Operation.change]
    cases ho : o.update? with
    | none => simp [recorded, ho, List.rtakeWhile_concat_neg]
    | some u => simp [recorded, ho, List.rtakeWhile_concat_pos]

namespace History

/-- A history after operations. -/
def after (h : History) (ops : List Operation) : History := ops.foldl Operation.run h

/-- Only the operations on a slot count for it. -/
theorem load_after_eq_foldl (h : History) (ops : List Operation) (s : Slot) :
    (h.after ops).load s = (onSlot s ops).foldl Operation.change (h.load s) := by
  induction ops generalizing h with
  | nil => rfl
  | cons o ops ih =>
    show ((o.run h).after ops).load s = _
    rw [ih, Operation.load_run, onSlot, onSlot, List.filter_cons]
    by_cases hs : o.slot = s <;> simp [hs]

theorem load_after (h : History) (ops : List Operation) (s : Slot) :
    (h.after ops).load s = recorded (h.load s) (onSlot s ops) := by
  rw [load_after_eq_foldl, foldl_change]

/-- The order of operations counts only inside the slots. -/
theorem after_eq_of_onSlot {ops others : List Operation}
    (h : ∀ s, onSlot s ops = onSlot s others) (start : History) :
    start.after ops = start.after others :=
  ext_load fun s => by rw [load_after, load_after, h s]

theorem after_swap (h : History) (front rest : List Operation) {o p : Operation}
    (hne : o.slot ≠ p.slot) :
    h.after (front ++ o :: p :: rest) = h.after (front ++ p :: o :: rest) := by
  refine after_eq_of_onSlot (fun s => ?_) h
  by_cases ho : o.slot = s
  · have hp : p.slot ≠ s := fun hp => hne (ho.trans hp.symm)
    simp [onSlot, ho, hp]
  · simp [onSlot, List.filter_cons, ho]

/-- What was done to a slot before it was cleared is forgotten. -/
theorem after_cleared (h : History) (front rest : List Operation) {o : Operation}
    (ho : o.update? = none) : h.after (front ++ o :: rest) =
      (h.clear o.slot).after ((front.filter fun p => p.slot ≠ o.slot) ++ rest) := by
  refine ext_load fun s => ?_
  rw [load_after_eq_foldl, load_after_eq_foldl, load_clear, onSlot, onSlot, List.filter_append,
    List.filter_append, List.filter_filter]
  by_cases hs : o.slot = s
  · subst hs
    simp [List.foldl_append, Operation.change, ho]
  · have hkept : ∀ p ∈ front, (decide (p.slot = s) && decide (p.slot ≠ o.slot)) =
        decide (p.slot = s) := by
      intro p _
      by_cases hp : p.slot = s <;> simp [hp, Ne.symm hs]
    rw [List.filter_congr hkept, List.filter_cons, if_neg (by simpa using hs),
      if_neg (Ne.symm hs)]

/-! ## What a history is as a whole -/

theorem mem_entries_iff {h : History} {s : Slot} {updates : List Update} :
    (s, updates) ∈ h.table.entries ↔ h.load s = updates ∧ updates ≠ [] := by
  rw [SlotTable.mem_entries_iff, load]
  constructor
  · intro hs
    exact ⟨by rw [hs, Option.getD_some], h.filled _ (SlotTable.mem_of_get? hs)⟩
  · rintro ⟨hload, hne⟩
    cases hs : h.table.get? s with
    | none => exact absurd (hload.symm.trans (by rw [hs]; rfl)) hne
    | some found => rw [← hload, hs, Option.getD_some]

/-- The size is the number of updates in all slots that have any. -/
theorem size_eq_sum (h : History) {slots : Finset Slot} (hslots : ∀ s, h.load s ≠ [] → s ∈ slots) :
    h.size = ∑ s ∈ slots, (h.load s).length := by
  have hnodup : (h.table.entries.map (·.1)).Nodup :=
    List.pairwise_map.2 (h.table.sorted.imp Slot.ne_of_lt)
  have hmem : ∀ s, s ∈ (h.table.entries.map (·.1)).toFinset ↔ h.load s ≠ [] := by
    intro s
    rw [List.mem_toFinset, List.mem_map]
    constructor
    · rintro ⟨l, hl, rfl⟩
      obtain ⟨hload, hne⟩ := mem_entries_iff.1 hl
      rwa [hload]
    · intro hne
      exact ⟨(s, h.load s), mem_entries_iff.2 ⟨rfl, hne⟩, rfl⟩
  have hsize : h.size = ((h.table.entries.map (·.1)).map fun s => (h.load s).length).sum := by
    rw [size_eq_sum_length, List.map_map]
    exact congrArg List.sum (List.map_congr_left fun l hl =>
      congrArg List.length (load_of_mem hl).symm)
  rw [hsize, ← List.sum_toFinset _ hnodup]
  refine Finset.sum_subset (fun s hs => hslots s ((hmem s).1 hs)) fun s _ hs => ?_
  rw [hmem, not_not] at hs
  rw [hs, List.length_nil]

/-- Groups that hold the written updates of every slot that has any, with keys and names in
order. -/
structure Lists (encoders : Text → Encoder) (content : Slot → List Update)
    (groups : List (Text × List (Text × Json))) : Prop where
  keys : Json.InOrder groups
  names : ∀ g ∈ groups, Json.InOrder g.2
  filled : ∀ g ∈ groups, g.2 ≠ []
  slots : ∀ s v, (∃ names, (s.key, names) ∈ groups ∧ (s.name, v) ∈ names) ↔
    content s ≠ [] ∧ ∃ items, v = .arr items ∧
      List.Forall₂ (fun u d => u.toJson (encoders s.name) = .ok d) (content s) items

variable {h : History} {encoders : Text → Encoder}

theorem lists_of_toJson {d : Json} (hwritten : h.toJson encoders = .ok d) :
    ∃ groups, d = .obj (groups.map fun g => (g.1, .obj g.2)) ∧ Lists encoders h.load groups := by
  obtain ⟨entries, rfl, hentries⟩ := toJson_eq_ok_iff.1 hwritten
  have horder := InOrder.written h.table.sorted hentries
  have hstaged := mapM_eq_ok_iff.2 (hentries.imp fun _ _ => writeSlot_eq_ok_iff.2)
  refine ⟨grouped entries, rfl, horder.grouped, fun g hg => horder.slots hg,
    fun g hg => ne_nil_of_mem_grouped hg, fun s v => ?_⟩
  rw [mem_grouped_iff, mem_mapM_iff hstaged]
  simp only [writeSlot_eq_ok_iff]
  constructor
  · rintro ⟨l, hl, rfl, items, hitems, hupdates⟩
    obtain ⟨hload, hne⟩ := mem_entries_iff.1 hl
    rw [hload]
    exact ⟨hne, items, hitems, hupdates⟩
  · rintro ⟨hne, items, hitems, hupdates⟩
    exact ⟨(s, h.load s), mem_entries_iff.2 ⟨rfl, hne⟩, rfl, items, hitems, hupdates⟩

/-- A history can be written if all its updates can be. -/
theorem exists_toJson_iff : (∃ d, h.toJson encoders = .ok d) ↔
    ∀ s, ∀ u ∈ h.load s, ∃ d, u.toJson (encoders s.name) = .ok d := by
  constructor
  · rintro ⟨d, hd⟩ s u hu
    obtain ⟨entries, rfl, hentries⟩ := toJson_eq_ok_iff.1 hd
    have hstaged := mapM_eq_ok_iff.2 (hentries.imp fun _ _ => writeSlot_eq_ok_iff.2)
    have hmem := mem_entries_iff.2 ⟨(rfl : h.load s = _), List.ne_nil_of_mem hu⟩
    obtain ⟨e, he⟩ := exists_of_mapM_eq_ok hstaged hmem
    obtain ⟨-, items, -, hupdates⟩ := writeSlot_eq_ok_iff.1 he
    exact exists_of_mapM_eq_ok (mapM_eq_ok_iff.2 hupdates) hu
  · intro hall
    have hslots : ∀ l ∈ h.table.entries, ∃ e, writeSlot encoders l = .ok e := by
      intro l hl
      have hupdates := hall l.1
      rw [load_of_mem hl] at hupdates
      obtain ⟨items, hitems⟩ := exists_mapM_eq_ok hupdates
      exact ⟨(l.1, .arr items),
        writeSlot_eq_ok_iff.2 ⟨rfl, items, rfl, mapM_eq_ok_iff.1 hitems⟩⟩
    obtain ⟨entries, hentries⟩ := exists_mapM_eq_ok hslots
    have hwritten := (mapM_eq_ok_iff.1 hentries).imp fun _ _ => writeSlot_eq_ok_iff.1
    exact ⟨_, toJson_eq_ok_iff.2 ⟨entries, rfl, hwritten⟩⟩

end History

namespace Ledger

/-- A ledger after operations. -/
def after (l : Ledger) (ops : List Operation) : Ledger := ops.foldl Operation.enter l

theorem history_after (l : Ledger) (ops : List Operation) :
    (l.after ops).history = l.history.after ops := by
  induction ops generalizing l with
  | nil => rfl
  | cons o ops ih =>
    show ((o.enter l).after ops).history = (o.run l.history).after ops
    rw [ih, Operation.history_enter]

/-- A slot that is cleared and filled again comes last. -/
example (u : Update) : (empty.after [.append ⟨"a", "value"⟩ u, .append ⟨"b", "value"⟩ u,
    .clear ⟨"a", "value"⟩, .track ⟨"a"⟩ "value" u]).entries.map (·.1) =
      [⟨"b", "value"⟩, ⟨"a", "value"⟩] := by rfl

end Ledger

namespace Checkpoint

/-- Whatever has been appended and cleared in whatever order, from whatever history: each slot
holds what was appended since it was last cleared, the size counts this and the written form
lists it. The order of operations counts only inside the slots, and of a slot that is cleared
nothing remains. The checkpoint depends only on what the updates in the slots look like. All of
this holds for ledgers, whose order does not show. -/
theorem save_of_same_content (kinds : List RuleKind) (h k : History) (ops others : List Operation) :
    (∀ s, (h.after ops).load s = recorded (h.load s) (onSlot s ops)) ∧
    (∀ slots : Finset Slot, (∀ s, (h.after ops).load s ≠ [] → s ∈ slots) →
      (h.after ops).size = ∑ s ∈ slots, (recorded (h.load s) (onSlot s ops)).length) ∧
    (∀ encoders, ((∃ d, (h.after ops).toJson encoders = .ok d) ↔
        ∀ s, ∀ u ∈ recorded (h.load s) (onSlot s ops), ∃ d, u.toJson (encoders s.name) = .ok d) ∧
      ∀ d, (h.after ops).toJson encoders = .ok d → ∃ groups,
        d = .obj (groups.map fun g => (g.1, .obj g.2)) ∧
          History.Lists encoders (fun s => recorded (h.load s) (onSlot s ops)) groups) ∧
    ((∀ s, onSlot s ops = onSlot s others) → h.after ops = h.after others) ∧
    (∀ front rest o p, o.slot ≠ p.slot →
      h.after (front ++ o :: p :: rest) = h.after (front ++ p :: o :: rest)) ∧
    (∀ front rest o, o.update? = none → h.after (front ++ o :: rest) =
      (h.clear o.slot).after ((front.filter fun p => p.slot ≠ o.slot) ++ rest)) ∧
    ((∀ s, recorded (h.load s) (onSlot s ops) = recorded (k.load s) (onSlot s others)) →
      h.after ops = k.after others) ∧
    ((∀ s, LookAlike (recorded (h.load s) (onSlot s ops)) (recorded (k.load s) (onSlot s others))) →
      save kinds (h.after ops) = save kinds (k.after others)) ∧
    (∀ l : Ledger, l.history = h → (∀ s, (l.after ops).load s = (h.after ops).load s) ∧
      (l.after ops).size = (h.after ops).size ∧
      ∀ encoders, (l.after ops).toJson encoders = (h.after ops).toJson encoders) := by
  have hload : (h.after ops).load = fun s => recorded (h.load s) (onSlot s ops) :=
    funext fun s => h.load_after ops s
  refine ⟨h.load_after ops, fun slots hslots => ?_, fun encoders => ⟨?_, fun d hd => ?_⟩,
    fun hsame => History.after_eq_of_onSlot hsame h,
    fun front rest o p hne => h.after_swap front rest hne,
    fun front rest o ho => h.after_cleared front rest ho, fun hsame => ?_, fun hsame => ?_, ?_⟩
  · rw [History.size_eq_sum _ hslots, hload]
  · rw [History.exists_toJson_iff, hload]
  · rw [← hload]
    exact History.lists_of_toJson hd
  · refine History.ext_load fun s => ?_
    rw [History.load_after, History.load_after, hsame s]
  · refine save_eq_of_alike fun s => ?_
    rw [History.load_after, History.load_after]
    exact hsame s
  · rintro l rfl
    refine ⟨fun s => ?_, ?_, fun encoders => ?_⟩
    · rw [← Ledger.load_history, l.history_after]
    · rw [← Ledger.size_history, l.history_after]
    · rw [← Ledger.toJson_history, l.history_after]

end Checkpoint

end ExpiryAudit
