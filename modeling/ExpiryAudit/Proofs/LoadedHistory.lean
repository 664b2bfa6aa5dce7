import ExpiryAudit.Checkpoint
import ExpiryAudit.Proofs.JsonShape
import ExpiryAudit.Proofs.SavedHistory
import ExpiryAudit.Proofs.World

/-!
# Histories that can be read again

The payloads of a history that was loaded come out of a text, and those of the updates that
an audit records are taken by its rules. Either way they are read back from what is written
for them, as soon as they can be written.
-/
namespace ExpiryAudit

namespace Json

/-! ## Parts of what is read -/

theorem Restored.mono {room room' : Nat} {v : Json} (h : Restored room v) (hle : room ≤ room') :
    Restored room' v := by
  induction h generalizing room' with
  | null => exact .null
  | bool => exact .bool
  | int writable => exact .int writable
  | float => exact .float
  | str => exact .str
  | @arr room items _ ih =>
    cases room' with
    | zero => cases hle
    | succ room' => exact .arr fun v hv => ih v hv (Nat.le_of_succ_le_succ hle)
  | @obj room members distinct _ ih =>
    cases room' with
    | zero => cases hle
    | succ room' => exact .obj distinct fun m hm => ih m hm (Nat.le_of_succ_le_succ hle)

variable {room : Nat} {d v : Json}

theorem Restored.of_members {found : List (Text × Json)} (h : Restored (room + 1) d)
    (hd : d.members = .ok found) : ∀ m ∈ found, Restored room m.2 := by
  cases h with
  | obj _ each =>
    cases hd
    exact each
  | _ => cases hd

theorem Restored.of_field {name : Text} (h : Restored (room + 1) d)
    (hd : d.field name = .ok v) : Restored room v := by
  cases h with
  | @obj _ members _ each =>
    simp only [field] at hd
    split at hd
    · next w hfind =>
      cases hd
      exact each _ (Named.mem_of_find? hfind)
    · cases hd
  | _ => cases hd

/-- The characters of a text and the names of an object are texts. -/
theorem Restored.of_elements {items : List Json} (h : Restored (room + 1) d)
    (hd : d.elements = .ok items) : ∀ v ∈ items, Restored room v := by
  cases h with
  | arr each =>
    cases hd
    exact each
  | str =>
    cases hd
    intro v hv
    obtain ⟨c, -, rfl⟩ := List.mem_map.1 hv
    exact .str
  | obj =>
    cases hd
    intro v hv
    obtain ⟨m, -, rfl⟩ := List.mem_map.1 hv
    exact .str
  | _ => cases hd

theorem restored_pair (room : Nat) (name : Text) {n : Int}
    (h : (arr [.str name, .int n]).isWritable = true) :
    Restored (room + 1) (.arr [.str name, .int n]) := by
  refine .arr fun v hv => ?_
  have hitem := isWritable_arr_iff.1 h v hv
  rcases List.mem_pair.1 hv with rfl | rfl
  · exact .str
  · exact .int hitem

end Json

/-! ## Payloads that are read back -/

/-- The payload is read back from what is written for it, as soon as it can be written. -/
def Payload.Legible (p : Payload) : Prop :=
  p.json.isWritable = true → Json.Restored Payload.depthLimit p.json

theorem RuleKind.Accepts.legible {k : RuleKind} {p : Payload} (h : k.Accepts p) : p.Legible :=
  fun hwritable => h.restored_json hwritable 984

/-- What is read for a value of a checkpoint. -/
theorem legible_of_decoderOf {kinds : List RuleKind} {name : Text} {v : Json} {p : Payload}
    (hv : Json.Restored Payload.depthLimit v) (h : decoderOf kinds name v = .ok p) :
    p.Legible := by
  cases hfind : kinds.find? fun k => k.id == name with
  | none =>
    rw [decoderOf, hfind] at h
    cases h
    exact fun _ => hv
  | some k =>
    rw [decoderOf, hfind] at h
    cases k with
    | map =>
      obtain ⟨⟨key, n⟩, -, h⟩ := eq_ok_of_bind_eq_ok h
      cases h
      exact Json.restored_pair 984 key
    | value | list | reducing =>
      cases h
      exact fun _ => hv

namespace History

/-- All payloads are read back. -/
def Legible (h : History) : Prop := ∀ s, ∀ u ∈ h.load s, u.payload.Legible

theorem legible_empty : History.empty.Legible := fun _ _ hu => nomatch hu

/-- What is read as a history from a value of a text. -/
theorem legible_of_ofJson {kinds : List RuleKind} {d : Json} {h : History}
    (hd : Json.Restored (Payload.depthLimit + 4) d) (hread : ofJson (decoderOf kinds) d = .ok h) :
    h.Legible := by
  obtain ⟨keys, hkeys, hread⟩ := eq_ok_of_bind_eq_ok hread
  have hkey := hd.of_members hkeys
  refine of_foldlM_eq_ok (fun key hmem made made' hmade hlegible => ?_) hread legible_empty
  obtain ⟨names, hnames, hmade⟩ := eq_ok_of_bind_eq_ok hmade
  have hname := (hkey key hmem).of_members hnames
  refine of_foldlM_eq_ok (fun name hmem made made' hmade hlegible => ?_) hmade hlegible
  obtain ⟨items, hitems, hmade⟩ := eq_ok_of_bind_eq_ok hmade
  have hitem := (hname name hmem).of_elements hitems
  refine of_foldlM_eq_ok (fun item hmem made made' hmade hlegible => ?_) hmade hlegible
  obtain ⟨u, hu, hmade⟩ := eq_ok_of_bind_eq_ok hmade
  cases hmade
  obtain ⟨value, hvalue, hu⟩ := eq_ok_of_bind_eq_ok hu
  obtain ⟨payload, hpayload, hu⟩ := eq_ok_of_bind_eq_ok hu
  obtain ⟨w, -, hu⟩ := eq_ok_of_bind_eq_ok hu
  cases hu
  have hvalue := (hitem item hmem).of_field hvalue
  exact forall_load_append hlegible (legible_of_decoderOf hvalue hpayload)

end History

/-- What is loaded from a checkpoint can be read again. -/
theorem Checkpoint.legible_of_load {kinds : List RuleKind} {path : String} {files : Files}
    {h : History} (hload : load kinds path files = .ok h) : h.Legible := by
  obtain ⟨content?, -, hload⟩ := eq_ok_of_bind_eq_ok hload
  cases content? with
  | none =>
    cases hload
    exact History.legible_empty
  | some content =>
    obtain ⟨text, -, hload⟩ := eq_ok_of_bind_eq_ok hload
    obtain ⟨data, hparsed, hload⟩ := eq_ok_of_bind_eq_ok hload
    have hdata : Json.Restored Json.depthLimit data := by
      cases hp : Json.parse text with
      | error e => rw [hp] at hparsed; cases hparsed
      | ok v =>
        rw [hp] at hparsed
        cases hparsed
        exact Json.restored_of_parse hp
    unfold restore at hload
    cases data with
    | obj members =>
      obtain ⟨found, -, hload⟩ := eq_ok_of_bind_eq_ok hload
      have hhistory : Json.Restored (Json.depthLimit - 1)
          ((Named.find? members "history").getD (.obj [])) := by
        cases hfind : Named.find? members "history" with
        | none => exact .obj List.nodup_nil (List.forall_mem_nil _)
        | some history =>
          cases hdata with
          | obj _ each => exact each _ (Named.mem_of_find? hfind)
      split at hload
      · cases hload
      · dsimp only [bind, Except.bind] at hload
        split at hload
        · cases hload
        · exact History.legible_of_ofJson hhistory hload
    | _ => cases hload

/-- Audits record nothing but what can be read again. -/
theorem Auditor.keeps_legible {σ : Type} (a : Auditor σ) :
    a.Keeps (fun _ => True) History.Legible where
  acquire := fun _ _ _ => trivial
  clear := fun _ _ _ => trivial
  observe := fun _ _ _ _ _ _ _ => trivial
  forget := fun _ s h => History.forall_load_clear h s
  record := fun _ _ _ _ _ hu h => History.forall_load_append h hu.legible

end ExpiryAudit
