import ExpiryAudit.Rule
import ExpiryAudit.Slot

/-!
# Histories

The accepted updates of every slot, in the order in which they were recorded. A
slot is present only while it has updates, so histories with the same updates in
every slot are equal.
-/
namespace ExpiryAudit

structure History where
  table : SlotTable (List Update)
  filled : ∀ e ∈ table.entries, e.2 ≠ []

namespace History

def empty : History := ⟨.empty, fun _ h => nomatch h⟩

instance : Inhabited History := ⟨empty⟩

/-- The updates of a slot. -/
def load (h : History) (s : Slot) : List Update := (h.table.get? s).getD []

/-- Records one more update of a slot. -/
def append (h : History) (s : Slot) (u : Update) : History where
  table := h.table.set s (h.load s ++ [u])
  filled := fun e he => by
    rcases SlotTable.mem_setIn he with rfl | he
    · simp
    · exact h.filled e he

/-- Forgets the updates of a slot. -/
def clear (h : History) (s : Slot) : History where
  table := h.table.erase s
  filled := fun e he => h.filled e (List.mem_filter.1 he).1

/-- The number of updates in all slots. -/
def size (h : History) : Nat := h.table.entries.foldr (fun e n => e.2.length + n) 0

@[simp] theorem load_empty (s : Slot) : empty.load s = [] := rfl

theorem load_append (h : History) (s r : Slot) (u : Update) :
    (h.append s u).load r = if r = s then h.load s ++ [u] else h.load r := by
  unfold load append
  rw [SlotTable.get?_set]
  split <;> simp [load]

theorem load_clear (h : History) (s r : Slot) :
    (h.clear s).load r = if r = s then [] else h.load r := by
  unfold load clear
  rw [SlotTable.get?_erase]
  split <;> rfl

/-- Histories with the same updates in every slot are equal. -/
theorem ext_load {h k : History} (e : ∀ s, h.load s = k.load s) : h = k := by
  have ht : h.table = k.table := SlotTable.ext_get? fun s => by
    have hs := e s
    unfold load at hs
    have hh : h.table.get? s ≠ some [] := fun he =>
      h.filled _ (SlotTable.mem_of_get? he) rfl
    have hk : k.table.get? s ≠ some [] := fun he =>
      k.filled _ (SlotTable.mem_of_get? he) rfl
    cases hg : h.table.get? s <;> cases hk' : k.table.get? s <;> simp_all
  cases h; cases k
  cases ht
  rfl

/-! ## Written form -/

/-- The slots of each key, under their names. -/
def grouped {α : Type} : List (Slot × α) → List (Text × List (Text × α))
  | [] => []
  | (s, v) :: rest =>
    match grouped rest with
    | [] => [(s.key, [(s.name, v)])]
    | (key, slots) :: groups =>
      if key = s.key then (key, (s.name, v) :: slots) :: groups
      else (s.key, [(s.name, v)]) :: (key, slots) :: groups

/-- An object of keys, each with an object of names, each with its updates. -/
def toJson (encoders : Text → Encoder) (h : History) : Except Fault Json := do
  let entries ← h.table.entries.mapM fun e => do
    return (e.1, Json.arr (← e.2.mapM fun u => u.toJson (encoders e.1.name)))
  return .obj ((grouped entries).map fun g => (g.1, .obj g.2))

/-- Records the written updates of one slot. -/
def appendWritten (decode : Decoder) (s : Slot) (h : History) (written : List Json) :
    Except Fault History :=
  written.foldlM (fun h d => do return h.append s (← Update.ofJson decode d)) h

def ofJson (decoders : Text → Decoder) (d : Json) : Except Fault History := do
  (← d.members).foldlM (fun h (key, slots) => do
    (← slots.members).foldlM (fun h (name, written) => do
      h.appendWritten (decoders name) ⟨key, name⟩ (← written.elements)) h) .empty

end History

/-- The view of a history from one key. -/
structure Tracker where
  key : Text

namespace Tracker

def snapshot (t : Tracker) (h : History) (name : Text) : List Update := h.load ⟨t.key, name⟩

def append (t : Tracker) (h : History) (name : Text) (u : Update) : History :=
  h.append ⟨t.key, name⟩ u

def reset (t : Tracker) (h : History) (name : Text) : History := h.clear ⟨t.key, name⟩

end Tracker
end ExpiryAudit
