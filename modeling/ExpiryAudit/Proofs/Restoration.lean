import ExpiryAudit.Checkpoint
import ExpiryAudit.Proofs.JsonLines
import ExpiryAudit.Proofs.Lines
import ExpiryAudit.Proofs.SavedHistory

/-!
# Saved checkpoints are loaded

A checkpoint that has been saved passes all checks when it is loaded, and gives a history
that looks the same as the one that was saved.
-/
namespace ExpiryAudit

/-! ## Values and what is read for them -/

namespace Json

/-- Values in which nothing is not-a-number. -/
inductive Definite : Json → Prop
  | null : Definite .null
  | bool {b : Bool} : Definite (.bool b)
  | int {n : Int} : Definite (.int n)
  | float {x : Binary64} (h : x ≠ .nan) : Definite (.float x)
  | str {s : Text} : Definite (.str s)
  | arr {items : List Json} (each : ∀ v ∈ items, Definite v) : Definite (.arr items)
  | obj {members : List (Text × Json)} (each : ∀ m ∈ members, Definite m.2) :
      Definite (.obj members)

theorem agreesItems_map {items : List Json} {f : Json → Json}
    (h : ∀ v ∈ items, v.agrees (f v) = true) : agreesItems items (items.map f) = true := by
  induction items with
  | nil => rfl
  | cons v items ih =>
    obtain ⟨hv, hrest⟩ := List.forall_mem_cons.1 h
    simp [agreesItems, hv, ih hrest]

theorem agreesMembers_of_find? {members others : List (Text × Json)}
    (h : ∀ m ∈ members, ∃ v, Named.find? others m.1 = some v ∧ m.2.agrees v = true) :
    agreesMembers members others = true := by
  induction members with
  | nil => rfl
  | cons m members ih =>
    obtain ⟨⟨v, hv, hagrees⟩, hrest⟩ := List.forall_mem_cons.1 h
    simp [agreesMembers, hv, hagrees, ih hrest]

/-- The order of members does not matter. -/
theorem Restored.agrees_sorted {room : Nat} {v : Json} (h : Restored room v)
    (hdefinite : v.Definite) : v.agrees v.sorted = true := by
  induction h with
  | null => exact agrees_null
  | @bool _ b =>
    show (Json.bool b).agrees (.bool b) = true
    simp [agrees, whole?]
  | @int _ n =>
    show (Json.int n).agrees (.int n) = true
    rw [agrees_int, beq_self_eq_true]
  | @float _ x =>
    cases hdefinite with
    | float hx =>
      show (Json.float x).agrees (.float x) = true
      cases x with
      | nan => exact absurd rfl hx
      | signed negative rank hrank => simp [agrees, Binary64.agrees]
  | @str _ s =>
    show (Json.str s).agrees (.str s) = true
    simp [agrees]
  | arr _ ih =>
    cases hdefinite with
    | arr each =>
      rw [sorted_arr, agrees]
      exact agreesItems_map fun v hv => ih v hv (each v hv)
  | @obj _ members distinct _ ih =>
    cases hdefinite with
    | obj each =>
      have hperm := List.mergeSort_perm (members.map fun m => (m.1, m.2.sorted)) byName
      have hdistinct := (distinct.map Json.sorted).perm hperm.symm
      rw [sorted_obj, agrees, Bool.and_eq_true]
      refine ⟨by simp, agreesMembers_of_find? fun m hm => ⟨m.2.sorted, ?_, ih m hm (each m hm)⟩⟩
      have hmem : (m.1, m.2.sorted) ∈ members.map fun m => (m.1, m.2.sorted) :=
        List.mem_map.2 ⟨m, hm, rfl⟩
      exact hdistinct.find?_of_mem (hperm.mem_iff.2 hmem)

end Json

/-- A payload that can be written agrees with what is read for it. -/
theorem SavableBy.agrees_reread {kinds : List RuleKind} {name : Text} {p : Payload}
    (h : SavableBy kinds name p) (hwritable : p.json.isWritable = true)
    (hdefinite : p.json.Definite) : p.json.agrees (p.reread kinds name).json = true := by
  rw [h.json_reread]
  exact (h.restored_json hwritable).agrees_sorted hdefinite

/-- An update that a checkpoint can hold: its payload is read from what is written for it
and is definite, and no number has too many digits. -/
structure Update.Storable (kinds : List RuleKind) (name : Text) (u : Update) : Prop where
  savable : SavableBy kinds name u.payload
  definite : u.payload.json.Definite
  payload_writable : u.payload.json.isWritable = true
  window_writable : u.window.isWritable = true

namespace Checkpoint

theorem save_eq_of_alike {kinds : List RuleKind} {h k : History} (e : h.Alike k) :
    save kinds h = save kinds k := by
  unfold save payload
  rw [e.toJson_eq kinds]

/-- What is saved for a history that has been written. -/
def unsigned (history : Json) : List (Text × Json) :=
  [("version", .int version), ("history", history)]

/-- The members of a checkpoint as they are written and read. -/
def inOrder (history : Json) (digest : String) : List (Text × Json) :=
  [(digestName, .str digest), ("history", history.sorted), ("version", .int version)]

theorem save_eq_ok {kinds : List RuleKind} {h : History} {text digest : String}
    (hs : save kinds h = .ok (text, digest)) :
    ∃ history, h.toJson (encoderOf kinds) = .ok history ∧
      (signed (unsigned history)).isWritable = true ∧
      text = (signed (unsigned history)).document ∧
      digest = Checkpoint.digest (unsigned history) := by
  obtain ⟨members, hmembers, hs⟩ := eq_ok_of_bind_eq_ok hs
  obtain ⟨written, hwritten, hs⟩ := eq_ok_of_bind_eq_ok hs
  obtain ⟨history, hhistory, hmembers⟩ := eq_ok_of_bind_eq_ok hmembers
  cases hmembers
  cases hs
  unfold Json.writable Json.writableIf at hwritten
  split at hwritten
  · next hw =>
    cases hwritten
    exact ⟨history, hhistory, hw, rfl, rfl⟩
  · cases hwritten

theorem insert_unsigned (history v : Json) : Named.insert digestName v (unsigned history) =
    ([("version", .int version), ("history", history), (digestName, v)] : List (Text × Json)) := by
  simp [Named.insert, unsigned, digestName]

theorem signed_unsigned (history : Json) : signed (unsigned history) =
    .obj [("version", .int version), ("history", history),
      (digestName, .str (digest (unsigned history)))] :=
  congrArg Json.obj (insert_unsigned history _)

theorem sorted_signed (history : Json) : (signed (unsigned history)).sorted =
    .obj (inOrder history (digest (unsigned history))) := by
  let members : List (Text × Json) :=
    [(digestName, .str (digest (unsigned history))), ("history", history), ("version", .int version)]
  have horder : Json.InOrder members := .three (by decide) (by decide)
  rw [signed_unsigned]
  exact horder.sorted_obj_of_perm (List.reverse_perm members)

/-- The digest of what is read is the one that was saved. -/
theorem digest_inOrder (history : Json) (found : String) :
    digest (inOrder history found) = digest (unsigned history) := by
  have horder : ∀ v, Json.InOrder [("history", v), ("version", Json.int version)] := fun v =>
    (Json.InOrder.three (a := digestName) (x := v) (by decide) (by decide)).tail
  have hread : Named.erase digestName (inOrder history found) =
      ([("history", history.sorted), ("version", .int version)] : List (Text × Json)) := rfl
  have hsaved : Named.erase digestName (unsigned history) = unsigned history := rfl
  have hsorted : (Json.obj (unsigned history)).sorted =
      .obj [("history", history.sorted), ("version", .int version)] :=
    (horder history).sorted_obj_of_perm (List.Perm.swap _ _ _)
  rw [digest, digest, hread, hsaved, Json.canonical, Json.canonical, hsorted,
    (horder history.sorted).sorted_obj, List.map_cons, List.map_cons, Json.sorted_sorted]
  rfl

/-- A digest that agrees is not refused. -/
theorem refuses_self (found : String) : refuses (.str found) found = false := by
  simp [refuses, Json.agrees]

/-- What is restored from what was saved is read from the history alone. -/
theorem restore_inOrder (kinds : List RuleKind) (path : String) (history : Json) :
    restore kinds path (.obj (inOrder history (digest (unsigned history)))) =
      History.ofJson (decoderOf kinds) history.sorted := by
  have hversion : Named.find? (inOrder history (digest (unsigned history))) "version" =
      some (.int version) := by simp [Named.find?_cons, inOrder, digestName]
  have hstored : Named.find? (inOrder history (digest (unsigned history))) digestName =
      some (.str (digest (unsigned history))) := by simp [Named.find?_cons, inOrder]
  have hhistory : Named.find? (inOrder history (digest (unsigned history))) "history" =
      some history.sorted := by simp [Named.find?_cons, inOrder, digestName]
  simp [restore, hversion, hstored, hhistory, digest_inOrder, refuses_self, bind, Except.bind]

/-- A checkpoint that was saved is restored. -/
theorem restored_signed {kinds : List RuleKind} {h : History} (hsavable : h.Savable kinds)
    (hwritable : (signed (unsigned h.saved)).isWritable = true) :
    Json.Restored Json.depthLimit (signed (unsigned h.saved)) := by
  rw [signed_unsigned] at hwritable ⊢
  refine .obj (by simp [Named.Distinct, digestName]) fun m hm => ?_
  have hmember := Json.isWritable_obj_iff.1 hwritable _ hm
  simp only [List.mem_cons, List.not_mem_nil, or_false] at hm
  rcases hm with rfl | rfl | rfl
  · exact .int hmember
  · exact hsavable.restored_saved hmember
  · exact .str

/-- A checkpoint that was saved is loaded as the history that was saved. -/
theorem load_of_saved {kinds : List RuleKind} {h : History} (hsavable : h.Savable kinds)
    {text digest path : String} (hs : save kinds h = .ok (text, digest)) {files : Files}
    (hfile : files.find? (.tidy path) = .ok (some (.text text))) :
    load kinds path files = .ok (h.reread kinds) := by
  obtain ⟨history, hhistory, hwritable, rfl, -⟩ := save_eq_ok hs
  obtain rfl := Except.ok.inj (hsavable.toJson_eq.symm.trans hhistory)
  have hsigned := restored_signed hsavable hwritable
  have hread : (FileContent.text (signed (unsigned h.saved)).document).read =
      .ok (signed (unsigned h.saved)).document.toList := by
    have hreturn := hsigned.sorted.not_mem_indent 0
    rw [FileContent.read, Json.document, String.toList_ofList,
      Text.unifyLineEnds_of_not_mem hreturn]
  simp only [load, hfile, bind, Except.bind, hread, hsigned.parse_document, Except.mapError,
    sorted_signed]
  rw [restore_inOrder, hsavable.ofJson_saved]

/-- What is loaded for accepted updates looks the same. -/
theorem load_of_save {kinds : List RuleKind} {h : History} (hrecorded : h.RecordedBy kinds)
    {text digest path : String} (hs : save kinds h = .ok (text, digest)) {files : Files}
    (hfile : files.find? (.tidy path) = .ok (some (.text text))) :
    ∃ k, load kinds path files = .ok k ∧ k.Alike h :=
  ⟨h.reread kinds, load_of_saved hrecorded.savable hs hfile, hrecorded.reread_alike⟩

/-! ## Saving what was loaded -/

/-- A history without numbers that have too many digits can be saved. -/
theorem save_eq_of_writable {kinds : List RuleKind} {h : History} (hsavable : h.Savable kinds)
    (hwritable : ∀ s, ∀ u ∈ h.load s, u.payload.json.isWritable = true ∧
      u.window.isWritable = true) :
    save kinds h = .ok ((signed (unsigned h.saved)).document, digest (unsigned h.saved)) := by
  have hversion : Text.isWritable version = true :=
    @Text.isWritable_of_natAbs_lt version 1 (by decide) (by decide)
  have hmembers : (signed (unsigned h.saved)).isWritable = true := by
    rw [signed_unsigned, Json.isWritable_obj_iff]
    simp only [List.forall_mem_cons]
    exact ⟨hversion, h.isWritable_saved hwritable, rfl, fun _ hm => nomatch hm⟩
  unfold save payload
  rw [hsavable.toJson_eq]
  simp only [bind, Except.bind, pure, Except.pure]
  rw [← unsigned, Json.writable, Json.writableIf, if_pos hmembers]

/-- What is saved depends on the history as it is written in order. -/
theorem document_eq_of_sorted {history history' : Json} (h : history.sorted = history'.sorted) :
    digest (unsigned history) = digest (unsigned history') ∧
      (signed (unsigned history)).document = (signed (unsigned history')).document := by
  have hdigest : digest (unsigned history) = digest (unsigned history') := by
    rw [← digest_inOrder history "", ← digest_inOrder history' "", inOrder, inOrder, h]
  refine ⟨hdigest, ?_⟩
  rw [Json.document, Json.document, sorted_signed, sorted_signed, hdigest, inOrder, inOrder, h]

/-- What is loaded is saved as the same text, with the same digest. -/
theorem save_reread {kinds : List RuleKind} {h : History} (hsavable : h.Savable kinds)
    (hwritable : ∀ s, ∀ u ∈ h.load s, u.payload.json.isWritable = true ∧
      u.window.isWritable = true) : save kinds (h.reread kinds) = save kinds h := by
  obtain ⟨hdigest, hdocument⟩ := document_eq_of_sorted hsavable.saved_reread
  rw [save_eq_of_writable hsavable hwritable, ← hdigest, ← hdocument]
  refine save_eq_of_writable hsavable.reread fun s u hu => ?_
  rw [History.load_reread] at hu
  obtain ⟨v, hv, rfl⟩ := List.mem_map.1 hu
  obtain ⟨hpayload, hwindow⟩ := hwritable s v hv
  have hsorted := ((hsavable s v hv).restored_json hpayload).sorted.isWritable
  rw [← (hsavable s v hv).json_reread] at hsorted
  exact ⟨hsorted, hwindow⟩

/-- A history that is saved and loaded has the same updates in every slot, with pairs for
the payloads of the map rule, and is saved as the same text again. -/
theorem saved_history_restored {kinds : List RuleKind} {h : History}
    (hstorable : ∀ s, ∀ u ∈ h.load s, u.Storable kinds s.name) :
    ∃ text digest k, save kinds h = .ok (text, digest) ∧
      (∀ path files files', (Files.write (.tidy path) text).run files = (.ok (), files') →
        load kinds path files' = .ok k) ∧
      (∀ s, k.load s = (h.load s).map fun u => ⟨u.payload.reread kinds s.name, u.window⟩) ∧
      (∀ s, ∀ u ∈ h.load s,
        u.payload.json.agrees (u.payload.reread kinds s.name).json = true) ∧
      k.table.entries.map (·.1) = h.table.entries.map (·.1) ∧ k.size = h.size ∧
      save kinds k = .ok (text, digest) := by
  have hsavable : h.Savable kinds := fun s u hu => (hstorable s u hu).savable
  have hwritable : ∀ s, ∀ u ∈ h.load s, u.payload.json.isWritable = true ∧
      u.window.isWritable = true := fun s u hu =>
    ⟨(hstorable s u hu).payload_writable, (hstorable s u hu).window_writable⟩
  have hsave := save_eq_of_writable hsavable hwritable
  refine ⟨_, _, h.reread kinds, hsave, fun path files files' hwrite => ?_,
    h.load_reread kinds, fun s u hu => ?_, ?_, h.size_reread kinds,
    (save_reread hsavable hwritable).trans hsave⟩
  · refine load_of_saved hsavable hsave ?_
    rw [Files.find?, Files.read_of_store hwrite]
  · have hu := hstorable s u hu
    exact hu.savable.agrees_reread hu.payload_writable hu.definite
  · rw [History.reread, List.map_map]
    rfl

/-- A pair of the map rule, and an object of a rule that is not known, are both loaded. -/
theorem saved_history_restored_of_two_slots :
    let w : Window := ⟨1, 2, by decide⟩
    let other (members : List (Text × Json)) : Update := ⟨.raw (.obj members), w⟩
    let h := (History.empty.append ⟨"k", "map"⟩ ⟨.raw (.arr [.str "a", .int 1]), w⟩).append
      ⟨"k", "other"⟩ (other [("b", .float .zero), ("a", .arr [.null])])
    (∀ s, ∀ u ∈ h.load s, u.Storable [.value, .map] s.name) ∧
      ∃ text digest k, save [.value, .map] h = .ok (text, digest) ∧
        load [.value, .map] "saved" ((Files.write (.tidy "saved") text).run .empty).2 = .ok k ∧
        k.load ⟨"k", "map"⟩ = [⟨.entry "a" 1, w⟩] ∧
        k.load ⟨"k", "other"⟩ = [other [("a", .arr [.null]), ("b", .float .zero)]] ∧
        k.size = h.size ∧ save [.value, .map] k = .ok (text, digest) := by
  intro w other h
  have hone : Text.isWritable 1 = true :=
    @Text.isWritable_of_natAbs_lt 1 1 (by decide) (by decide)
  have htwo : Text.isWritable 2 = true :=
    @Text.isWritable_of_natAbs_lt 2 1 (by decide) (by decide)
  have hwindow : w.isWritable = true := Bool.and_eq_true_iff.2 ⟨hone, htwo⟩
  have hpair : Update.Storable [.value, .map] "map" ⟨.raw (.arr [.str "a", .int 1]), w⟩ := by
    refine ⟨.inl ⟨.map, by decide, rfl, rfl⟩, .arr ?_, ?_, hwindow⟩
    · simp [Json.Definite.str, Json.Definite.int]
    · refine Json.isWritable_arr_iff.2 fun v hv => ?_
      rcases List.mem_pair.1 hv with rfl | rfl
      · rfl
      · exact hone
  have hother : Update.Storable [.value, .map] "other"
      (other [("b", .float .zero), ("a", .arr [.null])]) := by
    have hnone : ∀ k ∈ [RuleKind.value, .map], k.id ≠ "other" := by decide
    have hnull : Json.Restored 984 (.arr [.null]) := .arr (by simp [Json.Restored.null])
    have hobject : Json.Restored Payload.depthLimit
        (.obj [("b", .float .zero), ("a", .arr [.null])]) :=
      .obj (by simp [Named.Distinct]) (by simp [Json.Restored.float, hnull])
    refine ⟨.inr ⟨hnone, _, rfl, hobject⟩, .obj ?_, hobject.isWritable, hwindow⟩
    have hnull : Json.Definite (.arr [.null]) := .arr (by simp [Json.Definite.null])
    simp [Json.Definite.float, Binary64.zero, hnull]
  have hempty : ∀ s, ∀ u ∈ History.empty.load s, u.Storable [.value, .map] s.name := by simp
  have hstorable : ∀ s, ∀ u ∈ h.load s, u.Storable [.value, .map] s.name :=
    History.forall_load_append (History.forall_load_append hempty hpair) hother
  obtain ⟨text, digest, k, hsave, hload, hslots, -, -, hsize, hagain⟩ :=
    saved_history_restored hstorable
  refine ⟨hstorable, text, digest, k, hsave, hload _ .empty _ rfl, ?_, ?_, hsize, hagain⟩
  · rw [hslots, History.load_append, if_neg (by decide), History.load_append, if_pos rfl]
    rfl
  · have hsorted : (Json.obj [("b", .float .zero), ("a", .arr [.null])]).sorted =
        .obj [("a", .arr [.null]), ("b", .float .zero)] :=
      Json.InOrder.sorted_obj_of_perm (List.pairwise_pair.2 (by decide)) (.swap _ _ _)
    rw [hslots, History.load_append, if_pos rfl, History.load_append, if_neg (by decide)]
    exact congrArg (fun v => [Update.mk (.raw v) w]) hsorted

end Checkpoint

end ExpiryAudit
