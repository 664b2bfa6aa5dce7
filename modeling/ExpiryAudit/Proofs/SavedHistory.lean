import ExpiryAudit.Proofs.Alike
import ExpiryAudit.Proofs.Expectation
import ExpiryAudit.Proofs.Grouping

/-!
# Histories written and read

What a history is written as can be read, and gives the history again, with pairs for the
payloads of maps and with the members of all other payloads in order. For accepted payloads
that history looks the same. Histories that look the same are written in the same way.
-/
namespace ExpiryAudit

/-! ## Payloads and updates -/

/-- A pair of a name and a whole number is written as such a pair. -/
theorem Payload.json_of_mapEntry {p : Payload} {name : Text} {n : Int}
    (h : p.mapEntry = .ok (name, n)) : p.json = .arr [.str name, .int n] := by
  have hjson : ∀ items, p.items? = some items → p.json = .arr items := by
    intro items hitems
    cases p with
    | raw v => cases v <;> cases hitems; rfl
    | tuple items => cases hitems; rfl
  unfold mapEntry at h
  split at h
  · next name' v hitems =>
    obtain ⟨n', hn, h⟩ := eq_ok_of_bind_eq_ok h
    cases h
    cases v <;> cases hn
    exact hjson _ hitems
  · cases h
  · cases h

namespace RuleKind

/-- The payload that is read from the written form of an accepted one. The map rule reads
pairs. -/
def reread : RuleKind → Payload → Payload
  | map, p => .entry p.named.1 p.named.2
  | _, p => p

namespace Accepts

variable {k : RuleKind} {p : Payload}

/-- An accepted payload is written as a whole number or as a pair. -/
theorem json_eq (h : k.Accepts p) :
    (k ≠ map ∧ p = .raw (.int p.number)) ∨
      (k = map ∧ p.json = .arr [.str p.named.1, .int p.named.2]) := by
  by_cases hk : k = map
  · subst hk
    exact .inr ⟨rfl, Payload.json_of_mapEntry h.mapEntry_eq_ok⟩
  · exact .inl ⟨hk, h.eq_int hk⟩

theorem encode_eq (h : k.Accepts p) : k.encode p = .ok p.json := by
  rcases h.json_eq with ⟨hk, -⟩ | ⟨rfl, hjson⟩
  · cases k <;> first | exact absurd rfl hk | rfl
  · rw [encode, h.mapEntry_eq_ok, hjson]
    rfl

theorem decode_eq (h : k.Accepts p) : k.decode p.json = .ok (k.reread p) := by
  rcases h.json_eq with ⟨hk, hp⟩ | ⟨rfl, hjson⟩
  · rw [hp]
    cases k <;> first | exact absurd rfl hk | rfl
  · rw [hjson]
    rfl

theorem sorted_json (h : k.Accepts p) : p.json.sorted = p.json := by
  rcases h.json_eq with ⟨-, hp⟩ | ⟨-, hjson⟩
  · rw [hp]
    rfl
  · rw [hjson]
    rfl

theorem json_reread (h : k.Accepts p) : (k.reread p).json = p.json := by
  rcases h.json_eq with ⟨hk, -⟩ | ⟨rfl, hjson⟩
  · cases k <;> first | exact absurd rfl hk | rfl
  · exact hjson.symm

theorem mapEntry_reread (h : k.Accepts p) : (k.reread p).mapEntry = p.mapEntry := by
  cases k with
  | map => exact h.mapEntry_eq_ok.symm
  | value | list | reducing => rfl

theorem reread (h : k.Accepts p) : k.Accepts (k.reread p) := by
  cases k with
  | map => rfl
  | value | list | reducing => exact h

theorem restored_json (h : k.Accepts p) (hwritable : p.json.isWritable = true) (room : Nat) :
    Json.Restored (room + 1) p.json := by
  rcases h.json_eq with ⟨-, hp⟩ | ⟨-, hjson⟩
  · rw [hp] at hwritable ⊢
    exact .int hwritable
  · rw [hjson] at hwritable ⊢
    refine .arr fun v hv => ?_
    have hitem := Json.isWritable_arr_iff.1 hwritable _ hv
    rcases List.mem_pair.1 hv with rfl | rfl
    · exact .str
    · exact .int hitem

end Accepts

end RuleKind

/-- The payload is one that the named rule takes. -/
def AcceptedBy (kinds : List RuleKind) (name : Text) (p : Payload) : Prop :=
  ∃ k ∈ kinds, name = k.id ∧ k.Accepts p

/-- The most containers in each other of a payload: five more are around it in a
checkpoint. -/
def Payload.depthLimit : Nat := Json.depthLimit - 5

/-- The payload can be read from what is written for it: one that the named rule takes, or
any value that a text can hold where no rule has the name. -/
def SavableBy (kinds : List RuleKind) (name : Text) (p : Payload) : Prop :=
  AcceptedBy kinds name p ∨
    (∀ k ∈ kinds, k.id ≠ name) ∧ ∃ v, p = .raw v ∧ Json.Restored Payload.depthLimit v

/-- The payload that is read from what is written for a payload. Where no rule has the name,
the members of objects have been put in order. -/
def Payload.reread (kinds : List RuleKind) (name : Text) (p : Payload) : Payload :=
  match kinds.find? fun k => k.id == name with
  | some k => k.reread p
  | none => .raw p.json.sorted

theorem find?_id {kinds : List RuleKind} {k : RuleKind} (hk : k ∈ kinds) :
    (kinds.find? fun l => l.id == k.id) = some k := by
  cases hfind : kinds.find? fun l => l.id == k.id with
  | none => exact absurd (beq_self_eq_true k.id) (List.find?_eq_none.1 hfind k hk)
  | some l =>
    have hid := List.find?_some hfind
    rw [RuleKind.id_injective (beq_iff_eq.1 hid)]

theorem find?_id_eq_none {kinds : List RuleKind} {name : Text} (h : ∀ k ∈ kinds, k.id ≠ name) :
    (kinds.find? fun l => l.id == name) = none :=
  List.find?_eq_none.2 fun k hk => by simpa using h k hk

/-- A payload that a rule takes is read as one that it takes. -/
theorem AcceptedBy.reread {kinds : List RuleKind} {name : Text} {p : Payload}
    (h : AcceptedBy kinds name p) : AcceptedBy kinds name (p.reread kinds name) := by
  obtain ⟨k, hk, rfl, h⟩ := h
  refine ⟨k, hk, rfl, ?_⟩
  rw [Payload.reread, find?_id hk]
  exact h.reread

namespace SavableBy

variable {kinds : List RuleKind} {name : Text} {p : Payload}

theorem encode_eq (h : SavableBy kinds name p) : encoderOf kinds name p = .ok p.json := by
  obtain ⟨k, hk, rfl, h⟩ | ⟨hnone, -⟩ := h
  · rw [encoderOf, find?_id hk]
    exact h.encode_eq
  · rw [encoderOf, find?_id_eq_none hnone]
    rfl

theorem decode_eq (h : SavableBy kinds name p) :
    decoderOf kinds name p.json.sorted = .ok (p.reread kinds name) := by
  obtain ⟨k, hk, rfl, h⟩ | ⟨hnone, -⟩ := h
  · rw [decoderOf, Payload.reread, find?_id hk, h.sorted_json]
    exact h.decode_eq
  · rw [decoderOf, Payload.reread, find?_id_eq_none hnone]
    rfl

theorem json_reread (h : SavableBy kinds name p) :
    (p.reread kinds name).json = p.json.sorted := by
  obtain ⟨k, hk, rfl, h⟩ | ⟨hnone, -⟩ := h
  · rw [Payload.reread, find?_id hk, h.sorted_json]
    exact h.json_reread
  · rw [Payload.reread, find?_id_eq_none hnone]
    rfl

theorem reread (h : SavableBy kinds name p) : SavableBy kinds name (p.reread kinds name) := by
  obtain h | ⟨hnone, v, rfl, hv⟩ := h
  · exact .inl h.reread
  · refine .inr ⟨hnone, v.sorted, ?_, hv.sorted⟩
    rw [Payload.reread, find?_id_eq_none hnone]
    rfl

theorem restored_json (h : SavableBy kinds name p) (hwritable : p.json.isWritable = true) :
    Json.Restored Payload.depthLimit p.json := by
  obtain ⟨k, -, -, h⟩ | ⟨-, v, rfl, hv⟩ := h
  · exact h.restored_json hwritable 984
  · exact hv

end SavableBy

/-- A payload that a rule takes is read as one that looks the same. -/
theorem AcceptedBy.reread_looks {kinds : List RuleKind} {name : Text} {p : Payload}
    (h : AcceptedBy kinds name p) :
    (p.reread kinds name).json = p.json ∧ (p.reread kinds name).mapEntry = p.mapEntry := by
  obtain ⟨k, hk, rfl, h⟩ := h
  rw [Payload.reread, find?_id hk]
  exact ⟨h.json_reread, h.mapEntry_reread⟩

namespace Update

/-- The written form of an update with a written payload. -/
def saved (payload : Json) (w : Window) : Json :=
  .obj [("value", payload), ("before_ts", .int w.before), ("after_ts", .int w.after)]

/-- The update that is read from what is written for an update. -/
def reread (kinds : List RuleKind) (name : Text) (u : Update) : Update :=
  ⟨u.payload.reread kinds name, u.window⟩

theorem sorted_saved (payload : Json) (w : Window) : (saved payload w).sorted =
    .obj [("after_ts", .int w.after), ("before_ts", .int w.before), ("value", payload.sorted)] := by
  let members : List (Text × Json) :=
    [("after_ts", .int w.after), ("before_ts", .int w.before), ("value", payload)]
  have horder : Json.InOrder members := .three (by decide) (by decide)
  exact horder.sorted_obj_of_perm (List.reverse_perm members)

theorem ofJson_sorted_saved {decode : Decoder} {payload : Json} {p : Payload} (w : Window)
    (h : decode payload.sorted = .ok p) :
    ofJson decode (saved payload w).sorted = .ok ⟨p, w⟩ := by
  have hwindow : Window.make w.before w.after = .ok w := Window.make_eq_ok_iff.2 ⟨rfl, rfl⟩
  rw [sorted_saved]
  simp [ofJson, Window.ofFields, Json.field, Named.find?_cons, h, hwindow, bind, Except.bind,
    pure, Except.pure]

theorem restored_saved {payload : Json} {w : Window} {room : Nat}
    (hpayload : payload.isWritable = true → Json.Restored room payload)
    (hwritable : (saved payload w).isWritable = true) :
    Json.Restored (room + 1) (saved payload w) := by
  refine .obj (by simp [Named.Distinct]) fun m hm => ?_
  have hmember := Json.isWritable_obj_iff.1 hwritable _ hm
  simp only [List.mem_cons, List.not_mem_nil, or_false] at hm
  rcases hm with rfl | rfl | rfl
  · exact hpayload hmember
  · exact .int hmember
  · exact .int hmember

theorem isWritable_saved {payload : Json} {w : Window} (hpayload : payload.isWritable = true)
    (hwindow : w.isWritable = true) : (saved payload w).isWritable = true := by
  rw [Window.isWritable, Bool.and_eq_true] at hwindow
  rw [saved, Json.isWritable_obj_iff]
  simp only [List.forall_mem_cons]
  exact ⟨hpayload, hwindow.1, hwindow.2, fun _ hm => nomatch hm⟩

variable {kinds : List RuleKind} {name : Text} {u : Update}

theorem toJson_eq_saved (h : SavableBy kinds name u.payload) :
    u.toJson (encoderOf kinds name) = .ok (saved u.payload.json u.window) := by
  rw [toJson, h.encode_eq]
  rfl

theorem ofJson_saved (h : SavableBy kinds name u.payload) :
    ofJson (decoderOf kinds name) (saved u.payload.json u.window).sorted =
      .ok (u.reread kinds name) := ofJson_sorted_saved u.window h.decode_eq

end Update

/-! ## Histories -/

namespace History

/-- Every update belongs to a rule, which takes its payload. -/
def RecordedBy (kinds : List RuleKind) (h : History) : Prop :=
  ∀ s, ∀ u ∈ h.load s, AcceptedBy kinds s.name u.payload

/-- Every update can be read from what is written for it. -/
def Savable (kinds : List RuleKind) (h : History) : Prop :=
  ∀ s, ∀ u ∈ h.load s, SavableBy kinds s.name u.payload

/-- The history that is read from what is written for a history. -/
def reread (kinds : List RuleKind) (h : History) : History where
  table := ⟨h.table.entries.map fun l => (l.1, l.2.map (Update.reread kinds l.1.name)),
    List.pairwise_map.2 h.table.sorted⟩
  filled := fun e he => by
    obtain ⟨l, hl, rfl⟩ := List.mem_map.1 he
    exact fun hnil => h.filled l hl (List.map_eq_nil_iff.1 hnil)

variable {kinds : List RuleKind} {h : History}

/-- What holds of all updates and of one more holds when that one has been recorded. -/
theorem forall_load_append {P : Slot → Update → Prop} (hall : ∀ s, ∀ u ∈ h.load s, P s u) {s : Slot}
    {u : Update} (hu : P s u) : ∀ r, ∀ v ∈ (h.append s u).load r, P r v := by
  intro r v hv
  rw [load_append] at hv
  split at hv
  · next hr =>
    subst hr
    rcases List.mem_append.1 hv with hv | hv
    · exact hall _ v hv
    · exact List.mem_singleton.1 hv ▸ hu
  · exact hall r v hv

theorem forall_load_clear {P : Slot → Update → Prop} (hall : ∀ s, ∀ u ∈ h.load s, P s u)
    (s : Slot) : ∀ r, ∀ v ∈ (h.clear s).load r, P r v := by
  intro r v hv
  rw [load_clear] at hv
  split at hv
  · cases hv
  · exact hall r v hv

theorem RecordedBy.savable (hrecorded : h.RecordedBy kinds) : h.Savable kinds :=
  fun s u hu => .inl (hrecorded s u hu)

theorem load_of_mem {l : Slot × List Update} (hl : l ∈ h.table.entries) : h.load l.1 = l.2 := by
  rw [load, SlotTable.get?_of_mem hl, Option.getD_some]

theorem Savable.of_mem (hsavable : h.Savable kinds) {l : Slot × List Update}
    (hl : l ∈ h.table.entries) : ∀ u ∈ l.2, SavableBy kinds l.1.name u.payload := by
  rw [← load_of_mem hl]
  exact hsavable l.1

theorem load_reread (kinds : List RuleKind) (h : History) (s : Slot) :
    (h.reread kinds).load s = (h.load s).map (Update.reread kinds s.name) := by
  cases hs : h.table.get? s with
  | none =>
    have hnone : (h.reread kinds).table.get? s = none := by
      rw [SlotTable.get?, Option.map_eq_none_iff, List.find?_eq_none] at hs ⊢
      intro e he
      obtain ⟨l, hl, rfl⟩ := List.mem_map.1 he
      exact hs l hl
    rw [load, load, hs, hnone]
    rfl
  | some updates =>
    have hmem : (s, updates.map (Update.reread kinds s.name)) ∈ (h.reread kinds).table.entries :=
      List.mem_map.2 ⟨(s, updates), SlotTable.mem_of_get? hs, rfl⟩
    rw [load, load, hs, SlotTable.get?_of_mem hmem]
    rfl

theorem size_reread (kinds : List RuleKind) (h : History) : (h.reread kinds).size = h.size := by
  rw [size, size, reread, List.foldr_map]
  simp only [List.length_map]

theorem Savable.reread (hsavable : h.Savable kinds) : (h.reread kinds).Savable kinds := by
  intro s u hu
  rw [load_reread] at hu
  obtain ⟨v, hv, rfl⟩ := List.mem_map.1 hu
  exact (hsavable s v hv).reread

theorem RecordedBy.reread (hrecorded : h.RecordedBy kinds) : (h.reread kinds).RecordedBy kinds := by
  intro s u hu
  rw [load_reread] at hu
  obtain ⟨v, hv, rfl⟩ := List.mem_map.1 hu
  exact (hrecorded s v hv).reread

/-- What is read for accepted updates looks the same. -/
theorem RecordedBy.reread_alike (hrecorded : h.RecordedBy kinds) : (h.reread kinds).Alike h := by
  intro s
  rw [load_reread, LookAlike, List.map_map]
  refine List.map_congr_left fun u hu => ?_
  obtain ⟨hjson, hentry⟩ := (hrecorded s u hu).reread_looks
  exact congrArg₂ Prod.mk hjson (congrArg₂ Prod.mk hentry rfl)

/-- The updates of one slot are recorded one after another. -/
theorem appendWritten_eq_ok {decode : Decoder} {s : Slot} {written : List Json}
    {updates : List Update}
    (h : List.Forall₂ (fun d u => Update.ofJson decode d = .ok u) written updates) :
    ∀ made, ∃ k, appendWritten decode s made written = .ok k ∧
      ∀ r, k.load r = if r = s then made.load s ++ updates else made.load r := by
  induction h with
  | nil =>
    intro made
    refine ⟨made, rfl, fun r => ?_⟩
    split
    · next hr => rw [hr, List.append_nil]
    · rfl
  | @cons d u written updates hu _ ih =>
    intro made
    obtain ⟨k, hk, hload⟩ := ih (made.append s u)
    refine ⟨k, ?_, fun r => ?_⟩
    · rw [appendWritten, List.foldlM_cons, hu]
      exact hk
    · rw [hload r, load_append, load_append, if_pos rfl]
      split
      · rw [List.append_assoc, List.singleton_append]
      · rfl

/-- A slot with the written form of its updates. -/
structure Written (decoders : Text → Decoder) (e : Slot × Json) (l : Slot × List Update) :
    Prop where
  slot : e.1 = l.1
  updates : ∃ items, e.2 = .arr items ∧
    List.Forall₂ (fun d u => Update.ofJson (decoders l.1.name) d = .ok u) items l.2

/-- Slots that are read one after another hold what was written. -/
theorem foldlM_written {decoders : Text → Decoder} {entries : List (Slot × Json)}
    {saved : List (Slot × List Update)} (h : List.Forall₂ (Written decoders) entries saved)
    (hdistinct : Named.Distinct saved) :
    ∀ made : History, ∃ k, entries.foldlM (fun made e => do
        appendWritten (decoders e.1.name) e.1 made (← e.2.elements)) made = .ok k ∧
      ∀ s, k.load s = made.load s ++ (Named.find? saved s).getD [] := by
  induction h with
  | nil => exact fun made => ⟨made, rfl, fun s => (List.append_nil _).symm⟩
  | @cons e l entries saved he _ ih =>
    intro made
    obtain ⟨slot, v⟩ := e
    obtain ⟨slot', updates⟩ := l
    obtain ⟨hslot, items, hv, hread⟩ := he
    dsimp only at hslot hv
    subst hslot hv
    obtain ⟨between, hbetween, hload⟩ := appendWritten_eq_ok hread made (s := slot)
    obtain ⟨k, hk, hfinal⟩ := ih hdistinct.tail between
    refine ⟨k, ?_, fun r => ?_⟩
    · rw [List.foldlM_cons]
      show (appendWritten (decoders slot.name) slot made items >>= _) = _
      rw [hbetween]
      exact hk
    · rw [hfinal r, hload r, Named.find?_cons]
      by_cases hslot : r = slot
      · subst hslot
        have hnone : Named.find? saved r = none :=
          Named.find?_eq_none_iff.2 (List.nodup_cons.1 hdistinct).1
        rw [if_pos rfl, if_pos rfl, hnone, Option.getD_none, List.append_nil, Option.getD_some]
      · rw [if_neg hslot, if_neg (Ne.symm hslot)]

/-- The written form of a slot. -/
def savedSlot (l : Slot × List Update) : Slot × Json :=
  (l.1, .arr (l.2.map fun u => Update.saved u.payload.json u.window))

/-- The written form of a history. -/
def saved (h : History) : Json := nested (h.table.entries.map savedSlot)

theorem Savable.toJson_eq (hsavable : h.Savable kinds) :
    h.toJson (encoderOf kinds) = .ok h.saved := by
  unfold toJson
  rw [mapM_eq_ok_iff.2 (List.forall₂_map_right_iff.2 (List.forall₂_same.2 fun l hl => ?_))]
  · rfl
  · have hitems : l.2.mapM (fun u : Update => u.toJson (encoderOf kinds l.1.name)) =
        .ok (l.2.map fun u => Update.saved u.payload.json u.window) :=
      mapM_eq_ok_iff.2 (List.forall₂_map_right_iff.2 (List.forall₂_same.2 fun u hu =>
        Update.toJson_eq_saved (hsavable.of_mem hl u hu)))
    rw [hitems]
    rfl

theorem inOrder_savedSlot (h : History) : InOrder (h.table.entries.map savedSlot) :=
  List.pairwise_map.2 h.table.sorted

/-- The written form of a history is read as the history. -/
theorem Savable.ofJson_saved (hsavable : h.Savable kinds) :
    ofJson (decoderOf kinds) h.saved.sorted = .ok (h.reread kinds) := by
  have hread : List.Forall₂ (Written (decoderOf kinds))
      ((h.table.entries.map savedSlot).map fun e => (e.1, e.2.sorted))
      (h.reread kinds).table.entries := by
    rw [List.map_map, History.reread]
    refine List.forall₂_map_left_iff.2 (List.forall₂_map_right_iff.2 (List.forall₂_same.2 ?_))
    intro l hl
    refine ⟨rfl, _, Json.sorted_arr _, ?_⟩
    rw [List.map_map]
    exact List.forall₂_map_left_iff.2 (List.forall₂_map_right_iff.2 (List.forall₂_same.2
      fun u hu => Update.ofJson_saved (hsavable.of_mem hl u hu)))
  have hdistinct : Named.Distinct (h.reread kinds).table.entries :=
    List.pairwise_map.2 ((h.reread kinds).table.sorted.imp Slot.ne_of_lt)
  obtain ⟨k, hk, hload⟩ := foldlM_written hread hdistinct .empty
  have hsame : k = h.reread kinds := ext_load fun s => hload s
  rw [saved, h.inOrder_savedSlot.sorted_nested, ← hsame, ← hk]
  exact foldlM_nested (fun made s v => do
    appendWritten (decoderOf kinds s.name) s made (← v.elements)) .empty

/-- What is read is written in the same way. -/
theorem Savable.saved_reread (hsavable : h.Savable kinds) :
    (h.reread kinds).saved.sorted = h.saved.sorted := by
  rw [saved, saved, (h.reread kinds).inOrder_savedSlot.sorted_nested,
    h.inOrder_savedSlot.sorted_nested, History.reread, List.map_map, List.map_map, List.map_map]
  refine congrArg nested (List.map_congr_left fun l hl => Prod.ext rfl ?_)
  simp only [Function.comp_apply, savedSlot, Json.sorted_arr, List.map_map]
  refine congrArg Json.arr (List.map_congr_left fun u hu => ?_)
  have hjson := (hsavable.of_mem hl u hu).json_reread
  simp only [Function.comp_apply, Update.reread, Update.sorted_saved, hjson, Json.sorted_sorted]

/-- A history can be written if no number in it has too many digits. -/
theorem isWritable_saved (hwritable : ∀ s, ∀ u ∈ h.load s, u.payload.json.isWritable = true ∧
    u.window.isWritable = true) : h.saved.isWritable = true := by
  refine isWritable_nested fun e he => ?_
  obtain ⟨l, hl, rfl⟩ := List.mem_map.1 he
  refine Json.isWritable_arr_iff.2 fun v hv => ?_
  obtain ⟨u, hu, rfl⟩ := List.mem_map.1 hv
  rw [← load_of_mem hl] at hu
  obtain ⟨hpayload, hwindow⟩ := hwritable l.1 u hu
  exact Update.isWritable_saved hpayload hwindow

/-- A written history is restored, if it can be written at all. -/
theorem Savable.restored_saved (hsavable : h.Savable kinds)
    (hwritable : h.saved.isWritable = true) :
    Json.Restored (Json.depthLimit - 1) h.saved := by
  have hslots : ∀ e ∈ h.table.entries.map savedSlot, e.2.isWritable = true →
      Json.Restored (Payload.depthLimit + 2) e.2 := by
    intro e he hslot
    obtain ⟨l, hl, rfl⟩ := List.mem_map.1 he
    refine .arr fun v hv => ?_
    have hupdate := Json.isWritable_arr_iff.1 hslot _ hv
    obtain ⟨u, hu, rfl⟩ := List.mem_map.1 hv
    exact Update.restored_saved (hsavable.of_mem hl u hu).restored_json hupdate
  exact h.inOrder_savedSlot.restored_nested hslots hwritable

/-! ## Histories that look the same -/

/-- What the updates of every slot look like. -/
def lookTable (h : History) : SlotTable (List (Json × Except Fault (Text × Int) × Window)) where
  entries := h.table.entries.map fun l => (l.1, l.2.map Update.looks)
  sorted := List.pairwise_map.2 h.table.sorted

theorem Alike.lookTable_eq {h k : History} (e : h.Alike k) : h.lookTable = k.lookTable := by
  refine SlotTable.ext_get? fun s => ?_
  have hget : ∀ h : History, h.lookTable.get? s = (h.table.get? s).map (List.map Update.looks) :=
    fun h => Named.find?_map (List.map Update.looks) h.table.entries s
  have hne : ∀ h : History, h.table.get? s ≠ some [] := fun h hs =>
    h.filled _ (SlotTable.mem_of_get? hs) rfl
  have hs : LookAlike (h.load s) (k.load s) := e s
  rw [hget, hget]
  unfold load at hs
  cases hh : h.table.get? s with
  | none =>
    cases hk : k.table.get? s with
    | none => rfl
    | some others =>
      rw [hh, hk] at hs
      have hnil : others = [] := List.map_eq_nil_iff.1 hs.symm
      exact absurd (hnil ▸ hk) (hne k)
  | some updates =>
    cases hk : k.table.get? s with
    | none =>
      rw [hh, hk] at hs
      have hnil : updates = [] := List.map_eq_nil_iff.1 hs
      exact absurd (hnil ▸ hh) (hne h)
    | some others =>
      rw [hh, hk] at hs
      exact congrArg some hs

/-- Histories that look the same are written in the same way. -/
theorem Alike.toJson_eq {h k : History} (e : h.Alike k) (kinds : List RuleKind) :
    h.toJson (encoderOf kinds) = k.toJson (encoderOf kinds) := by
  have hentries := congrArg SlotTable.entries e.lookTable_eq
  unfold toJson
  rw [mapM_eq_of_map_eq hentries fun l m hlook => ?_]
  obtain ⟨hslot, hlooks⟩ := Prod.mk.inj hlook
  have hitems := mapM_eq_of_map_eq hlooks fun _ _ =>
    Update.toJson_eq (faithful_encoderOf kinds m.1.name)
  rw [hslot, hitems]

/-- A whole number looks like nothing else. -/
theorem update_eq_of_looks {u v : Update} (h : v.looks = u.looks) {n : Int}
    (hu : u.payload = .raw (.int n)) : v = u := by
  obtain ⟨payload, window⟩ := u
  obtain ⟨payload', window'⟩ := v
  obtain ⟨hjson, hrest⟩ := Prod.mk.inj h
  obtain ⟨-, hwindow⟩ := Prod.mk.inj hrest
  dsimp only at hu hjson hwindow
  subst hu hwindow
  cases payload' with
  | raw v => exact congrArg (fun p => Update.mk p window') (congrArg Payload.raw hjson)
  | tuple items => cases hjson

/-- Without the rule for maps, only one history looks like a given one. -/
theorem Alike.eq_of_recordedBy {kinds : List RuleKind} {h k : History} (e : k.Alike h)
    (hrecorded : h.RecordedBy kinds) (hmap : RuleKind.map ∉ kinds) : k = h := by
  refine ext_load fun s => ?_
  have hlooks : List.Forall₂ (fun u v : Update => v.looks = u.looks) (h.load s) (k.load s) := by
    have heq : (h.load s).map Update.looks = (k.load s).map Update.looks := (e s).symm
    rw [← List.forall₂_eq_eq_eq, List.forall₂_map_left_iff, List.forall₂_map_right_iff] at heq
    exact heq.imp fun _ _ hlook => hlook.symm
  have hequal : List.Forall₂ (· = ·) (h.load s) (k.load s) := by
    refine ((List.forall₂_and_left _ _).2 ⟨hrecorded s, hlooks⟩).imp ?_
    rintro u v ⟨⟨kind, hkind, -, haccepts⟩, hlook⟩
    have hne : kind ≠ .map := fun he => hmap (he ▸ hkind)
    exact (update_eq_of_looks hlook (haccepts.eq_int hne)).symm
  rw [List.forall₂_eq_eq_eq] at hequal
  exact hequal.symm

end History
end ExpiryAudit
