import ExpiryAudit.Proofs.Act
import ExpiryAudit.Proofs.Grouping
import ExpiryAudit.Proofs.Named
import Mathlib.Algebra.BigOperators.Group.List.Basic

/-!
# Ledgers

A ledger keeps the slots in the order in which they came: a slot that is filled for the first
time, or again after it has been cleared, comes last. It is put in order when it is written. What
it holds is a history, and it is written as that history is.
-/
namespace ExpiryAudit

namespace Slot

variable {a b c : Slot}

theorem key_eq_of_between (hab : a < b) (hbc : b < c) (hkey : c.key = a.key) : b.key = a.key := by
  rcases hab with hab | ⟨hab, -⟩
  · rcases hbc with hbc | ⟨hbc, -⟩
    · exact absurd (hkey ▸ Text.lt_trans hab hbc) (Text.lt_irrefl _)
    · exact hbc.trans hkey
  · exact hab.symm

theorem name_ne_of_lt (h : a < b) (hkey : b.key = a.key) : a.name ≠ b.name := by
  rcases h with h | ⟨-, h⟩
  · exact absurd (hkey ▸ h) (Text.lt_irrefl _)
  · exact fun hname => Text.lt_irrefl _ (hname ▸ h)

end Slot

/-! ## Groups that are filled one slot after another -/

namespace History

variable {α : Type}

/-- Puts the value of a slot under its key. -/
def place (groups : List (Text × List (Text × α))) (e : Slot × α) :
    List (Text × List (Text × α)) :=
  Named.insert e.1.key (Named.insert e.1.name e.2 ((Named.find? groups e.1.key).getD [])) groups

theorem place_cons (g : Text × List (Text × α)) (groups : List (Text × List (Text × α)))
    (e : Slot × α) :
    place (g :: groups) e = if g.1 = e.1.key then (g.1, Named.insert e.1.name e.2 g.2) :: groups
      else g :: place groups e := by
  rw [place, Named.find?_cons, Named.insert]
  split <;> rfl

/-- A slot after all others joins the last group or starts a group of its own. -/
theorem place_grouped {entries : List (Slot × α)} {e : Slot × α}
    (h : InOrder (entries ++ [e])) : place (grouped entries) e = grouped (entries ++ [e]) := by
  induction entries with
  | nil => rfl
  | cons d rest ih =>
    obtain ⟨hfirst, hrest⟩ := List.pairwise_cons.1 h
    have hname := Slot.name_ne_of_lt (hfirst e (List.mem_append_right _ List.mem_cons_self))
    rw [List.cons_append, grouped, grouped, ← ih hrest]
    cases hgroups : grouped rest with
    | nil =>
      by_cases hkey : e.1.key = d.1.key
      · simp [place, Named.find?_cons, Named.insert, hkey, hname hkey]
      · simp [place, Named.find?_cons, Named.insert, hkey, Ne.symm hkey]
    | cons g groups =>
      have hbetween : e.1.key = d.1.key → g.1 = d.1.key := by
        intro hkey
        have hg : g ∈ grouped rest := hgroups ▸ List.mem_cons_self
        obtain ⟨x, hx⟩ := List.exists_mem_of_ne_nil _ (ne_nil_of_mem_grouped hg)
        have hmem := mem_of_mem_grouped hg hx
        exact Slot.key_eq_of_between (hfirst _ (List.mem_append_left _ hmem))
          ((List.pairwise_append.1 hrest).2.2 _ hmem _ List.mem_cons_self) hkey
      by_cases hjoins : g.1 = d.1.key
      · by_cases hkey : e.1.key = d.1.key
        · simp [place_cons, Named.insert, hjoins, hkey, hname hkey]
        · simp [place_cons, hjoins, Ne.symm hkey]
      · have hkey := mt hbetween hjoins
        simp only [place_cons, if_neg hjoins, if_neg (Ne.symm hkey)]
        split <;> exact (if_neg hjoins).symm

/-- Slots in order make the same groups, one after another or all at once. -/
theorem foldl_place {entries : List (Slot × α)} (h : InOrder entries) :
    entries.foldl place [] = grouped entries := by
  induction entries using List.reverseRecOn with
  | nil => rfl
  | append_singleton entries e ih =>
    have hfront := (List.pairwise_append.1 h).1
    rw [List.foldl_append, ih hfront]
    exact place_grouped h

theorem size_eq_sum_length (h : History) :
    h.size = (h.table.entries.map fun e => e.2.length).sum := by
  rw [List.sum_eq_foldr, List.foldr_map, size]

end History

/-- Items may be made before any of them is used. -/
theorem foldlM_eq_mapM {α β γ : Type} (f : α → Except Fault β) (g : γ → β → γ) (xs : List α)
    (c : γ) : xs.foldlM (fun c x => do return g c (← f x)) c =
      (do return (← xs.mapM f).foldl g c) := by
  induction xs generalizing c with
  | nil => rfl
  | cons x xs ih =>
    rw [List.foldlM_cons, List.mapM_cons]
    cases f x with
    | error e => rfl
    | ok y =>
      have hrest := ih (g c y)
      simp only [bind, Except.bind, pure, Except.pure] at hrest ⊢
      rw [hrest]
      cases xs.mapM f <;> rfl

/-! ## Ledgers -/

/-- The updates of slots, each of which has come once. -/
structure Ledger where
  entries : List (Slot × List Update)
  distinct : Named.Distinct entries

namespace Ledger

def empty : Ledger := ⟨[], List.nodup_nil⟩

/-- The updates of a slot. -/
def load (l : Ledger) (s : Slot) : List Update := (Named.find? l.entries s).getD []

/-- Records one more update of a slot, which keeps its place if it has one. -/
def append (l : Ledger) (s : Slot) (u : Update) : Ledger :=
  ⟨Named.insert s (l.load s ++ [u]) l.entries, l.distinct.insert _ _⟩

/-- Forgets a slot and its place. -/
def clear (l : Ledger) (s : Slot) : Ledger := ⟨Named.erase s l.entries, l.distinct.filter _⟩

/-- The number of updates in all slots. -/
def size (l : Ledger) : Nat := (l.entries.map fun e => e.2.length).sum

def bySlot (d e : Slot × List Update) : Bool := !decide (e.1 < d.1)

/-- The slots that have updates, in order. -/
def filled (l : Ledger) : List (Slot × List Update) :=
  (l.entries.mergeSort bySlot).filter fun e => !e.2.isEmpty

/-- An object of keys, each with an object of names, each with its updates. -/
def toJson (encoders : Text → Encoder) (l : Ledger) : Except Fault Json := do
  let groups ← l.filled.foldlM (fun groups e => do
    return History.place groups (← History.writeSlot encoders e)) []
  return .obj (groups.map fun g => (g.1, .obj g.2))

theorem bySlot_eq_true {d e : Slot × List Update} : bySlot d e = true ↔ ¬e.1 < d.1 := by
  simp [bySlot]

theorem pairwise_mergeSort_bySlot (entries : List (Slot × List Update)) :
    (entries.mergeSort bySlot).Pairwise fun d e => ¬e.1 < d.1 := by
  have htrans : ∀ a b c : Slot × List Update, bySlot a b = true → bySlot b c = true →
      bySlot a c = true := by
    intro a b c hab hbc
    rw [bySlot_eq_true] at hab hbc ⊢
    intro hca
    by_cases hne : b.1 = c.1
    · exact hab (hne ▸ hca)
    · exact hab (Slot.lt_trans (Slot.lt_of_not_lt hbc hne) hca)
  have htotal : ∀ a b : Slot × List Update, (bySlot a b || bySlot b a) = true := by
    intro a b
    rw [Bool.or_eq_true, bySlot_eq_true, bySlot_eq_true, ← not_and_or]
    exact fun h => Slot.lt_irrefl _ (Slot.lt_trans h.1 h.2)
  exact (List.pairwise_mergeSort htrans htotal entries).imp bySlot_eq_true.1

theorem inOrder_filled (l : Ledger) : History.InOrder l.filled := by
  have hperm := List.mergeSort_perm l.entries bySlot
  have hdistinct := List.pairwise_map.1 (l.distinct.perm hperm.symm)
  refine (List.Pairwise.imp ?_ ((pairwise_mergeSort_bySlot l.entries).and hdistinct)).filter _
  exact fun h => Slot.lt_of_not_lt h.1 h.2

/-- The history that a ledger holds. -/
def history (l : Ledger) : History where
  table := ⟨l.filled, l.inOrder_filled⟩
  filled := fun e he => by
    have hfilled := (List.mem_filter.1 he).2
    simpa using hfilled

theorem load_history (l : Ledger) (s : Slot) : l.history.load s = l.load s := by
  have hperm := (List.mergeSort_perm l.entries bySlot).symm
  have hfind : l.history.table.get? s =
      (Named.find? l.entries s).filter fun updates => !updates.isEmpty := by
    rw [l.distinct.find?_perm hperm]
    exact (l.distinct.perm hperm).find?_filter (fun updates => !updates.isEmpty) s
  rw [History.load, hfind, load]
  cases Named.find? l.entries s with
  | none => rfl
  | some updates => cases updates <;> rfl

theorem history_append (l : Ledger) (s : Slot) (u : Update) :
    (l.append s u).history = l.history.append s u := by
  refine History.ext_load fun r => ?_
  rw [History.load_append, load_history, load_history, load_history, load, append,
    Named.find?_insert]
  split <;> rfl

theorem history_clear (l : Ledger) (s : Slot) : (l.clear s).history = l.history.clear s := by
  refine History.ext_load fun r => ?_
  rw [History.load_clear, load_history, load_history, load, clear, Named.find?_erase]
  split <;> rfl

/-- Slots without updates do not count. -/
theorem sum_length_filter (entries : List (Slot × List Update)) :
    ((entries.filter fun e => !e.2.isEmpty).map fun e => e.2.length).sum =
      (entries.map fun e => e.2.length).sum := by
  induction entries with
  | nil => rfl
  | cons e rest ih =>
    obtain ⟨s, updates⟩ := e
    cases updates with
    | nil => simpa using ih
    | cons u updates => simp [ih]

theorem size_history (l : Ledger) : l.history.size = l.size := by
  have hperm := (List.mergeSort_perm l.entries bySlot).map fun e => e.2.length
  have hfilled : l.history.size = (l.filled.map fun e => e.2.length).sum :=
    l.history.size_eq_sum_length
  rw [hfilled, filled, sum_length_filter, hperm.sum_eq, size]

/-- A ledger is written as the history that it holds. -/
theorem toJson_history (encoders : Text → Encoder) (l : Ledger) :
    l.history.toJson encoders = l.toJson encoders := by
  have hwritten : l.history.toJson encoders = do
    return History.nested (← l.filled.mapM (History.writeSlot encoders)) := rfl
  rw [hwritten, toJson, foldlM_eq_mapM]
  cases hentries : l.filled.mapM (History.writeSlot encoders) with
  | error e => rfl
  | ok entries =>
    have hslots := (mapM_eq_ok_iff.1 hentries).imp fun _ _ => History.writeSlot_eq_ok_iff.1
    have hplaced := History.foldl_place (l.inOrder_filled.written hslots)
    simp only [bind, Except.bind, pure, Except.pure, hplaced]
    rfl

end Ledger
end ExpiryAudit
