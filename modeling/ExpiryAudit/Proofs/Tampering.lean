import ExpiryAudit.Proofs.JsonCanonical
import ExpiryAudit.Proofs.LoadedHistory
import ExpiryAudit.Proofs.Restoration

/-!
# Tampered checkpoints

A checkpoint that still has its digest, but is otherwise not what was saved, is refused: its
canonical text is another one, and only a collision of digests could hide that. A checkpoint that
is what was saved, with its members in any order, is loaded as the history that was saved.
-/
namespace ExpiryAudit

/-! ## Members in another order -/

/-- Lists whose items are related to those of a common list by a rule that gives new items. -/
theorem exists_forall₂ {α β γ δ : Type} {R : α → β → Prop} {S : γ → β → Prop} {T : α → δ → Prop}
    {U : γ → δ → Prop} (h : ∀ a b c, R a b → S c b → ∃ d, T a d ∧ U c d) {as : List α} {bs : List β}
    {cs : List γ} (hab : List.Forall₂ R as bs) (hcb : List.Forall₂ S cs bs) :
    ∃ ds, List.Forall₂ T as ds ∧ List.Forall₂ U cs ds := by
  induction hab generalizing cs with
  | nil =>
    cases hcb
    exact ⟨[], .nil, .nil⟩
  | cons hr _ ih =>
    cases hcb with
    | cons hs hcb =>
      obtain ⟨d, ht, hu⟩ := h _ _ _ hr hs
      obtain ⟨ds, hts, hus⟩ := ih hcb
      exact ⟨d :: ds, .cons ht hts, .cons hu hus⟩

namespace Json

theorem exists_find?_of_sameMember {members others : List (Text × Json)}
    (h : List.Forall₂ SameMember others members) {name : Text} {v : Json}
    (hv : Named.find? members name = some v) :
    ∃ w, Named.find? others name = some w ∧ w.Same v := by
  induction h with
  | nil => cases hv
  | @cons m n _ _ hm _ ih =>
    rw [Named.find?_cons] at hv ⊢
    rw [hm.1]
    split at hv
    · next hname =>
      cases hv
      exact ⟨m.2, if_pos hname, hm.2⟩
    · next hname =>
      rw [if_neg hname]
      exact ih hv

theorem distinct_of_sameMember {members others : List (Text × Json)}
    (h : List.Forall₂ SameMember others members) (hd : Named.Distinct members) :
    Named.Distinct others := by
  have hnames : others.map (·.1) = members.map (·.1) := by
    rw [← List.forall₂_eq_eq_eq, List.forall₂_map_left_iff, List.forall₂_map_right_iff]
    exact h.imp fun _ _ hm => hm.1
  rw [Named.Distinct, hnames]
  exact hd

/-- What is found in one of two objects that are the same is found in the other. -/
theorem Same.exists_find? {members others : List (Text × Json)}
    (h : (Json.obj others).Same (.obj members)) (hd : Named.Distinct members) {name : Text}
    {v : Json} (hv : Named.find? members name = some v) :
    ∃ w, Named.find? others name = some w ∧ w.Same v := by
  obtain ⟨others, ordered, he, hperm, hsame⟩ := same_obj_iff.1 h
  cases he
  obtain ⟨w, hw, hwv⟩ := exists_find?_of_sameMember hsame hv
  rw [(distinct_of_sameMember hsame hd).find?_perm hperm.symm] at hw
  exact ⟨w, hw, hwv⟩

/-- The same for a field. -/
theorem Same.exists_field {members : List (Text × Json)} {d : Json} (h : d.Same (.obj members))
    (hd : Named.Distinct members) (name : Text) {v : Json}
    (hv : Named.find? members name = some v) : ∃ w, d.field name = .ok w ∧ w.Same v := by
  obtain ⟨others, -, rfl, -, -⟩ := same_obj_iff.1 h
  obtain ⟨w, hw, hwv⟩ := h.exists_find? hd hv
  exact ⟨w, by rw [field, hw], hwv⟩

theorem Same.eq_int {v : Json} {n : Int} (h : v.Same (.int n)) : v = .int n := by
  cases h
  rfl

theorem Same.eq_str {v : Json} {s : Text} (h : v.Same (.str s)) : v = .str s := by
  cases h
  rfl

theorem Same.eq_pair {v : Json} {name : Text} {n : Int}
    (h : v.Same (.arr [.str name, .int n])) : v = .arr [.str name, .int n] := by
  obtain ⟨others, rfl, hitems⟩ := same_arr_iff.1 h
  cases hitems with
  | cons hname hitems =>
    cases hitems with
    | cons hn hitems =>
      cases hitems
      rw [hname.eq_str, hn.eq_int]

end Json

/-! ## Updates that are loaded -/

/-- The payload that is loaded for one that was saved: for the map rule its pair, and otherwise
the value that it is written as, with members in any order. -/
def Payload.LoadedAs (kinds : List RuleKind) (name : Text) (p loaded : Payload) : Prop :=
  match kinds.find? fun k => k.id == name with
  | some .map => ∃ key n, p.mapEntry = .ok (key, n) ∧ loaded = .entry key n
  | _ => ∃ v, loaded = .raw v ∧ v.Same p.json

/-- The update that is loaded for one that was saved. -/
structure Update.LoadedAs (kinds : List RuleKind) (name : Text) (u loaded : Update) : Prop where
  payload : u.payload.LoadedAs kinds name loaded.payload
  window : loaded.window = u.window

theorem Payload.exists_loadedAs {kinds : List RuleKind} {name : Text} {p : Payload} {v w : Json}
    (h : encoderOf kinds name p = .ok v) (hw : w.Same v) :
    ∃ loaded, decoderOf kinds name w = .ok loaded ∧ p.LoadedAs kinds name loaded := by
  unfold encoderOf at h
  unfold decoderOf LoadedAs
  cases hfind : kinds.find? fun k => k.id == name with
  | none =>
    rw [hfind] at h
    cases h
    exact ⟨.raw w, rfl, w, rfl, hw⟩
  | some k =>
    rw [hfind] at h
    cases k with
    | map =>
      obtain ⟨⟨key, n⟩, hentry, h⟩ := eq_ok_of_bind_eq_ok h
      cases h
      rw [hw.eq_pair]
      exact ⟨.entry key n, rfl, key, n, hentry, rfl⟩
    | value | list | reducing =>
      cases h
      exact ⟨.raw w, rfl, w, rfl, hw⟩

theorem Update.exists_loadedAs {kinds : List RuleKind} {name : Text} {u : Update} {d e : Json}
    (h : u.toJson (encoderOf kinds name) = .ok d) (he : e.Same d) :
    ∃ loaded, ofJson (decoderOf kinds name) e = .ok loaded ∧ u.LoadedAs kinds name loaded := by
  obtain ⟨v, hv, h⟩ := eq_ok_of_bind_eq_ok h
  cases h
  have hdistinct : Named.Distinct ([("value", v), ("before_ts", .int u.window.before),
      ("after_ts", .int u.window.after)] : List (Text × Json)) := by simp [Named.Distinct]
  obtain ⟨value, hvalue, hsame⟩ := he.exists_field hdistinct "value" rfl
  obtain ⟨before, hbefore, hbeforeSame⟩ := he.exists_field hdistinct "before_ts" rfl
  obtain ⟨after, hafter, hafterSame⟩ := he.exists_field hdistinct "after_ts" rfl
  obtain ⟨payload, hpayload, hloaded⟩ := Payload.exists_loadedAs hv hsame
  have hwindow : Window.ofFields e "before_ts" "after_ts" = .ok u.window := by
    rw [hbeforeSame.eq_int] at hbefore
    rw [hafterSame.eq_int] at hafter
    refine bind_eq_ok hbefore (bind_eq_ok rfl (bind_eq_ok hafter (bind_eq_ok rfl ?_)))
    exact Window.make_eq_ok_iff.2 ⟨rfl, rfl⟩
  exact ⟨⟨payload, u.window⟩, bind_eq_ok hvalue (bind_eq_ok hpayload (bind_eq_ok hwindow rfl)),
    hloaded, rfl⟩

/-! ## Histories that are loaded -/

namespace History

/-- A slot with the updates that are loaded for those that were saved. -/
structure LoadedSlot (kinds : List RuleKind) (l loaded : Slot × List Update) : Prop where
  slot : loaded.1 = l.1
  updates : List.Forall₂ (Update.LoadedAs kinds l.1.name) l.2 loaded.2

/-- The value of a slot, with the members in it in any order. -/
def SameSlot (e f : Slot × Json) : Prop := e.1 = f.1 ∧ e.2.Same f.2

variable {kinds : List RuleKind} {h : History}

theorem exists_loadedSlot {o e : Slot × Json} {l : Slot × List Update} (ho : SameSlot o e)
    (hl : WrittenSlot (encoderOf kinds) l e) :
    ∃ loaded, Written (decoderOf kinds) o loaded ∧ LoadedSlot kinds l loaded := by
  obtain ⟨slot, items, hitems, hwritten⟩ := hl
  obtain ⟨hslot, hsame⟩ := ho
  rw [hitems] at hsame
  obtain ⟨others, hothers, hsame⟩ := Json.same_arr_iff.1 hsame
  have hupdate : ∀ (e d : Json) (u : Update), e.Same d →
      u.toJson (encoderOf kinds l.1.name) = .ok d → ∃ loaded,
        Update.ofJson (decoderOf kinds l.1.name) e = .ok loaded ∧
          u.LoadedAs kinds l.1.name loaded := fun _ _ _ he hu => Update.exists_loadedAs hu he
  obtain ⟨updates, hread, hloaded⟩ := exists_forall₂ hupdate hsame hwritten
  exact ⟨(l.1, updates), ⟨hslot.trans slot, others, hothers, hread⟩, rfl, hloaded⟩

/-- An object of slots with its members in another order holds the same slots in another order. -/
theorem exists_groups {groups : List (Text × List (Text × Json))}
    {others : List (Text × Json)}
    (h : List.Forall₂ Json.SameMember others (groups.map fun g => (g.1, .obj g.2))) :
    ∃ found : List (Text × List (Text × Json)),
      others = found.map (fun g => (g.1, Json.obj g.2)) ∧
      ∃ slots, (found.flatMap slotsOf).Perm slots ∧
        List.Forall₂ SameSlot slots (groups.flatMap slotsOf) := by
  induction groups generalizing others with
  | nil =>
    cases h
    exact ⟨[], rfl, [], .nil, .nil⟩
  | cons g groups ih =>
    cases h with
    | @cons m _ others _ hm hrest =>
      obtain ⟨key, v⟩ := m
      obtain ⟨hkey, hv⟩ := hm
      obtain ⟨names, ordered, hobj, hperm, hsame⟩ := Json.same_obj_iff.1 hv
      dsimp only at hkey hobj
      subst hkey hobj
      obtain ⟨found, rfl, slots, hslots, hall⟩ := ih hrest
      refine ⟨(g.1, names) :: found, rfl, slotsOf (g.1, ordered) ++ slots,
        (hperm.map _).append hslots, List.rel_append ?_ hall⟩
      refine List.forall₂_map_left_iff.2 (List.forall₂_map_right_iff.2 ?_)
      exact hsame.imp fun x y hxy => ⟨congrArg (Slot.mk g.1) hxy.1, hxy.2⟩

theorem exists_slots {d : Json} {entries : List (Slot × Json)} (h : d.Same (nested entries)) :
    ∃ found : List (Text × List (Text × Json)),
      d = .obj (found.map fun g => (g.1, .obj g.2)) ∧
      ∃ slots, (found.flatMap slotsOf).Perm slots ∧ List.Forall₂ SameSlot slots entries := by
  obtain ⟨others, ordered, rfl, hperm, hsame⟩ := Json.same_obj_iff.1 h
  obtain ⟨groups, rfl, slots, hslots, hall⟩ := exists_groups hsame
  have hcomp : Relation.Comp (fun bs as => bs = as.map fun g => (g.1, Json.obj g.2)) List.Perm
      others groups := by
    rw [List.eq_map_comp_perm]
    exact hperm
  obtain ⟨found, hfound, hgroups⟩ := hcomp
  rw [flatMap_grouped] at hall
  exact ⟨found, congrArg Json.obj hfound, slots, (hgroups.flatMap_right _).trans hslots, hall⟩

theorem slots_eq_of_loadedSlot {entries saved : List (Slot × List Update)}
    (h : List.Forall₂ (LoadedSlot kinds) entries saved) : saved.map (·.1) = entries.map (·.1) := by
  rw [← List.forall₂_eq_eq_eq, List.forall₂_map_left_iff, List.forall₂_map_right_iff]
  exact h.flip.imp fun _ _ hl => hl.slot

theorem forall₂_of_loadedSlot {entries saved : List (Slot × List Update)}
    (h : List.Forall₂ (LoadedSlot kinds) entries saved) (s : Slot) :
    List.Forall₂ (Update.LoadedAs kinds s.name) ((Named.find? entries s).getD [])
      ((Named.find? saved s).getD []) := by
  induction h with
  | nil => exact .nil
  | @cons l loaded _ _ hl _ ih =>
    rw [Named.find?_cons, Named.find?_cons, hl.slot]
    split
    · next hs =>
      subst hs
      exact hl.updates
    · exact ih

/-- A history is read from what it is written as, with members in any order. -/
theorem exists_ofJson {history d : Json} (hwritten : h.toJson (encoderOf kinds) = .ok history)
    (hd : d.Same history) : ∃ k, ofJson (decoderOf kinds) d = .ok k ∧
      ∀ s, List.Forall₂ (Update.LoadedAs kinds s.name) (h.load s) (k.load s) := by
  obtain ⟨entries, rfl, hslots⟩ := toJson_eq_ok_iff.1 hwritten
  obtain ⟨found, rfl, slots, hperm, hsame⟩ := exists_slots hd
  have hslot : ∀ o e l, SameSlot o e → WrittenSlot (encoderOf kinds) l e →
      ∃ loaded, Written (decoderOf kinds) o loaded ∧ LoadedSlot kinds l loaded :=
    fun _ _ _ => exists_loadedSlot
  obtain ⟨saved, hread, hloaded⟩ := exists_forall₂ hslot hsame hslots
  obtain ⟨ordered, hread, horder⟩ := List.perm_comp_forall₂ hperm hread
  have hdistinct : Named.Distinct saved := by
    rw [Named.Distinct, slots_eq_of_loadedSlot hloaded]
    exact List.pairwise_map.2 (h.table.sorted.imp Slot.ne_of_lt)
  have hdistinct' := hdistinct.perm horder.symm
  obtain ⟨k, hk, hload⟩ := foldlM_written hread hdistinct' .empty
  refine ⟨k, Eq.trans ?_ hk, fun s => ?_⟩
  · exact foldlM_groups (fun made s v => do
      appendWritten (decoderOf kinds s.name) s made (← v.elements)) found .empty
  · rw [hload s, load_empty, List.nil_append, hdistinct'.find?_perm horder]
    exact forall₂_of_loadedSlot hloaded s

end History

/-! ## Digests -/

/-- Two texts that have the same digest. -/
def Digest.Collide (s t : String) : Prop := s ≠ t ∧ Digest.ofText s = Digest.ofText t

theorem Digest.ofText_isEmpty (s : String) : (Digest.ofText s).isEmpty = false := by
  have hwords : ∀ state : State, ∃ c rest, state.words.flatMap hexWord = c :: rest :=
    fun state => ⟨_, _, rfl⟩
  obtain ⟨c, rest, hrest⟩ := hwords (absorb .initial
    ((wordsOnto [] (pad s.toUTF8.toList)).length / 16) (wordsOnto [] (pad s.toUTF8.toList)))
  rw [ofText, hexadecimal, hrest, String.isEmpty_eq_false_iff]
  simp

theorem Named.erase_of_not_mem {α : Type} {entries : List (Text × α)} {name : Text}
    (h : name ∉ entries.map (·.1)) : Named.erase name entries = entries := by
  refine List.filter_eq_self.2 fun e he => bne_iff_ne.2 ?_
  rintro rfl
  exact h (List.mem_map.2 ⟨e, he, rfl⟩)

theorem Named.Distinct.perm_erase {α : Type} {entries : List (Text × α)} {name : Text} {v : α}
    (h : Distinct entries) (hv : find? entries name = some v) :
    entries.Perm ((name, v) :: erase name entries) := by
  induction entries with
  | nil => cases hv
  | cons e rest ih =>
    rw [find?_cons] at hv
    split at hv
    · next hname =>
      subst hname
      cases hv
      rw [show erase e.1 (e :: rest) = erase e.1 rest from List.filter_cons_of_neg (by simp),
        erase_of_not_mem (List.nodup_cons.1 h).1]
    · next hname =>
      have hrest := (ih h.tail hv).cons e
      rw [show erase name (e :: rest) = e :: erase name rest from
        List.filter_cons_of_pos (bne_iff_ne.2 hname)]
      exact hrest.trans (.swap _ _ _)

namespace Json

theorem Same.erase {members others : List (Text × Json)}
    (h : (Json.obj others).Same (.obj members)) (name : Text) :
    (Json.obj (Named.erase name others)).Same (.obj (Named.erase name members)) := by
  obtain ⟨others, ordered, he, hperm, hsame⟩ := same_obj_iff.1 h
  cases he
  refine same_obj_iff.2 ⟨_, Named.erase name ordered, rfl, hperm.filter _, ?_⟩
  clear h hperm
  unfold Named.erase
  induction hsame with
  | nil => exact .nil
  | cons hm _ ih =>
    rw [List.filter_cons, List.filter_cons, hm.1]
    split
    · exact .cons hm ih
    · exact ih

/-- Objects are the same if what they have under one name is, and all else too. -/
theorem Same.of_erase {members others : List (Text × Json)} {name : Text} {v : Json}
    (h : (Json.obj (Named.erase name others)).Same (.obj members))
    (hd : Named.Distinct others) (hv : Named.find? others name = some v)
    (hname : name ∉ members.map (·.1)) (hvalue : v.Same v) :
    (Json.obj others).Same (.obj (Named.insert name v members)) := by
  obtain ⟨rest, ordered, he, hperm, hsame⟩ := same_obj_iff.1 h
  cases he
  refine same_obj_iff.2 ⟨others, ordered ++ [(name, v)], rfl, ?_, ?_⟩
  · exact (hd.perm_erase hv).trans ((hperm.cons _).trans (List.perm_append_singleton _ _).symm)
  · rw [Named.insert_of_not_mem v hname]
    exact List.rel_append hsame (.cons ⟨rfl, hvalue⟩ .nil)

end Json

/-! ## Checkpoints -/

namespace Checkpoint

variable {kinds : List RuleKind} {path : String} {members others : List (Text × Json)}

theorem restored_erase {room : Nat} (h : Json.Restored room (.obj others)) (name : Text) :
    Json.Restored room (.obj (Named.erase name others)) := by
  cases h with
  | obj distinct each =>
    exact .obj (distinct.filter _) fun m hm => each m (List.mem_filter.1 hm).1

theorem digest_eq_of_same (h : (Json.obj others).Same (.obj members)) {room : Nat}
    (hothers : Json.Restored room (.obj others)) : digest others = digest members :=
  congrArg Digest.ofText ((h.erase digestName).canonical_eq (restored_erase hothers digestName))

theorem refuses_of_ne {found expected : String} (hempty : found.isEmpty = false)
    (hne : found ≠ expected) : refuses (.str found) expected = true := by
  simp [refuses, Json.truth, Json.agrees, hempty, hne]

/-- A digest that is not that of the other members is refused, unless reading has failed before. -/
theorem exists_restore_error {found : String}
    (hfound : Named.find? members digestName = some (.str found)) (hempty : found.isEmpty = false)
    (hne : found ≠ digest members) : ∃ f, restore kinds path (.obj members) = .error f := by
  have hrefuses : refuses ((Named.find? members digestName).getD (.str "")) (digest members) =
      true := by
    rw [hfound]
    exact refuses_of_ne hempty hne
  unfold restore
  dsimp only
  rw [hrefuses]
  cases ((Named.find? members "version").getD (.int version)).toInt with
  | error f => exact ⟨f, rfl⟩
  | ok n =>
    by_cases hversion : n = version
    · exact ⟨_, by simp [hversion, bind, Except.bind]; rfl⟩
    · exact ⟨_, by simp [hversion, bind, Except.bind]; rfl⟩

/-- What is saved is restored from its history alone, whatever the order of its members. -/
theorem exists_restore_eq {history : Json}
    (h : (Json.obj others).Same (signed (unsigned history))) {room : Nat}
    (hothers : Json.Restored room (.obj others)) :
    ∃ d, d.Same history ∧
      restore kinds path (.obj others) = History.ofJson (decoderOf kinds) d := by
  let saved : List (Text × Json) :=
    [("version", .int version), ("history", history),
      (digestName, .str (digest (unsigned history)))]
  rw [signed_unsigned] at h
  have hdistinct : Named.Distinct saved := by simp [saved, Named.Distinct, digestName]
  have hfind : ∀ name v, Named.find? saved name = some v →
      ∃ w, Named.find? others name = some w ∧ w.Same v := fun _ _ => h.exists_find? hdistinct
  obtain ⟨v, hversion, hv⟩ := hfind "version" _ rfl
  obtain ⟨d, hhistory, hd⟩ := hfind "history" _ rfl
  obtain ⟨found, hstored, hfound⟩ := hfind digestName _ rfl
  have hsigned : Named.erase digestName saved = Named.erase digestName (unsigned history) := rfl
  have hdigest : digest others = digest (unsigned history) := by
    rw [digest_eq_of_same h hothers, digest, hsigned, digest]
  refine ⟨d, hd, ?_⟩
  rw [hv.eq_int] at hversion
  rw [hfound.eq_str] at hstored
  simp [restore, hversion, hstored, hhistory, hdigest, refuses_self, bind, Except.bind]

theorem load_eq_restore {files : Files} {content : FileContent} {text : List Char}
    (hfile : files.find? (.tidy path) = .ok (some content)) (hread : content.read = .ok text)
    (hparse : Json.parse text = .ok (.obj members)) :
    load kinds path files = restore kinds path (.obj members) := by
  rw [load, hfile]
  simp only [bind, Except.bind, hread, hparse, Except.mapError]

/-- The canonical texts of a checkpoint that was read and of one that was saved are different
texts with the same digest. -/
def Collides (read saved : List (Text × Json)) : Prop :=
  Digest.Collide (Json.obj (Named.erase digestName read)).canonical
    (Json.obj (Named.erase digestName saved)).canonical

/-- A checkpoint that differs from the one that was saved in anything but its digest and the order
of members is refused, unless digests collide. One that does not differ is loaded as the history
that was saved. -/
theorem tampered_checkpoint_refused {kinds : List RuleKind} {h : History}
    {members : List (Text × Json)} {text found : String}
    (hmembers : payload kinds h = .ok members) (hsave : save kinds h = .ok (text, found)) :
    text = (signed members).document ∧
    ∀ path files content t read, files.find? (.tidy path) = .ok (some content) →
      content.read = .ok t → Json.parse t = .ok (.obj read) →
      (Named.find? read digestName = some (.str found) → ¬(Json.obj read).Same (signed members) →
        ¬Collides read members → ∃ f, load kinds path files = .error f) ∧
      ((Json.obj read).Same (signed members) → ∃ k, load kinds path files = .ok k ∧
        ∀ s, List.Forall₂ (Update.LoadedAs kinds s.name) (h.load s) (k.load s)) := by
  obtain ⟨history, hhistory, hpayload⟩ := eq_ok_of_bind_eq_ok hmembers
  obtain rfl : unsigned history = members := Except.ok.inj hpayload
  obtain ⟨history', hhistory', hwritable, htext, hfound⟩ := save_eq_ok hsave
  obtain rfl := Except.ok.inj (hhistory'.symm.trans hhistory)
  refine ⟨htext, fun path files content t read hfile hread hparse => ?_⟩
  have hrestored := Json.restored_of_parse hparse
  rw [load_eq_restore hfile hread hparse]
  constructor
  · intro hstored hdiffers hfree
    have hnone : digestName ∉ (unsigned history').map (·.1) := by simp [unsigned, digestName]
    have hdistinct : Named.Distinct read := by
      cases hrestored with
      | obj distinct _ => exact distinct
    have hunsigned : (Json.obj (unsigned history')).isWritable = true := by
      rw [signed_unsigned, Json.isWritable_obj_iff] at hwritable
      exact Json.isWritable_obj_iff.2 fun m hm => hwritable m (List.mem_append_left [_] hm)
    have hcanonical : (Json.obj (Named.erase digestName read)).canonical ≠
        (Json.obj (Named.erase digestName (unsigned history'))).canonical := by
      intro he
      rw [Named.erase_of_not_mem hnone] at he
      have hsame := Json.same_of_canonical (restored_erase hrestored digestName).isWritable
        hunsigned he
      rw [hfound] at hstored
      exact hdiffers (hsame.of_erase hdistinct hstored hnone .str)
    refine exists_restore_error hstored ?_ ?_
    · rw [hfound]
      exact Digest.ofText_isEmpty _
    · intro he
      exact hfree ⟨hcanonical, by rw [← digest, ← digest, ← he, hfound]⟩
  · intro hsame
    obtain ⟨d, hd, hrestore⟩ := @exists_restore_eq kinds path _ _ hsame _ hrestored
    rw [hrestore]
    exact History.exists_ofJson hhistory hd

/-- A history of one update. -/
def single : History :=
  History.empty.append ⟨"k", "value"⟩ ⟨.raw (.int 1), ⟨1, 2, by decide⟩⟩

/-- What is written for it. -/
def singleWritten : Json :=
  .obj [("k", .obj [("value", .arr [Update.saved (.int 1) ⟨1, 2, by decide⟩])])]

/-- Its checkpoint with some version. -/
def versioned (v : Json) : List (Text × Json) :=
  [("version", v), ("history", singleWritten), (digestName, .str (digest (unsigned singleWritten)))]

/-- What the digest of this checkpoint is taken of, in order. -/
def versionedInOrder (v : Json) : Json :=
  .obj [("history", .obj [("k", .obj [("value", .arr [.obj [("after_ts", .int 2),
    ("before_ts", .int 1), ("value", .int 1)]])])]), ("version", v)]

theorem sorted_versioned {v : Json} (hv : v.sorted = v) :
    (Json.obj [("version", v), ("history", singleWritten)]).sorted = versionedInOrder v := by
  have hone : ∀ name (v : Json), (Json.obj [(name, v)]).sorted = .obj [(name, v.sorted)] :=
    fun name v => Json.InOrder.sorted_obj (List.pairwise_singleton _ _)
  have horder : Json.InOrder [("history", singleWritten), ("version", v)] :=
    List.pairwise_pair.2 (by decide : Text.ofString "history" < .ofString "version")
  rw [horder.sorted_obj_of_perm (.swap _ _ _), List.map_cons, List.map_cons, singleWritten, hone,
    hone, Json.sorted_arr, List.map_cons, Update.sorted_saved, hv]
  rfl

theorem not_collides_versioned : ¬Collides (versioned (.bool true)) (unsigned singleWritten) := by
  have htrue : Json.canonical (.obj (Named.erase digestName (versioned (.bool true)))) =
      String.ofList ((versionedInOrder (.bool true)).write .compact) := by
    rw [Json.canonical, ← sorted_versioned rfl]
    rfl
  have hone : Json.canonical (.obj (Named.erase digestName (unsigned singleWritten))) =
      String.ofList ((versionedInOrder (.int 1)).write .compact) := by
    rw [Json.canonical, ← sorted_versioned rfl]
    rfl
  rw [Collides, htrue, hone]
  unfold Digest.Collide
  decide +kernel

/-- A directory with a checkpoint. -/
def storing (members : List (Text × Json)) : Files :=
  ((Files.write (.tidy "saved") (String.ofList ((Json.obj members).write .spaced))).run .empty).2

theorem restored_versioned {v : Json} (hv : Json.Restored 0 v) :
    Json.Restored Json.depthLimit (.obj (versioned v)) := by
  have hone : Text.isWritable 1 = true := by decide +kernel
  have htwo : Text.isWritable 2 = true := by decide +kernel
  have hobj : ∀ {room name v}, Json.Restored room v → Json.Restored (room + 1) (.obj [(name, v)]) :=
    fun h => .obj (by simp [Named.Distinct]) (List.forall_mem_singleton.2 h)
  have hupdate : Json.Restored 986 (Update.saved (.int 1) ⟨1, 2, by decide⟩) := by
    refine .obj (by simp [Named.Distinct]) ?_
    simp [Json.Restored.int hone, Json.Restored.int htwo]
  have hhistory : Json.Restored 989 singleWritten :=
    hobj (hobj (.arr (List.forall_mem_singleton.2 hupdate)))
  refine .obj (by simp [versioned, Named.Distinct, digestName]) ?_
  simp [versioned, hv.mono (Nat.zero_le _), hhistory, Json.Restored.str]

/-- What is stored is read. -/
theorem parse_storing {members : List (Text × Json)}
    (h : Json.Restored Json.depthLimit (.obj members)) :
    ∃ content t, (storing members).find? (.tidy "saved") = .ok (some content) ∧
      content.read = .ok t ∧ Json.parse t = .ok (.obj members) := by
  have hreturn : '\r' ∉ (Json.obj members).write .spaced := fun hc =>
    absurd (Json.isPlain_write _ _ hc) (by decide)
  refine ⟨.text (String.ofList ((Json.obj members).write .spaced)), _, ?_, ?_, h.parse_write⟩
  · have hstore : (Files.store (.tidy "saved")
        (.text (String.ofList ((Json.obj members).write .spaced)))).run .empty =
          (.ok (), storing members) := rfl
    rw [Files.find?, Files.read_of_store hstore]
  · rw [FileContent.read, String.toList_ofList, Text.unifyLineEnds_of_not_mem hreturn]

/-- A version that is true in place of one passes for the version, but not for the digest. -/
theorem tampered_checkpoint_refused_of_true_version :
    ∃ members text found, payload [.value] single = .ok members ∧
      save [.value] single = .ok (text, found) ∧
      (∃ f, load [.value] "saved" (storing (versioned (.bool true))) = .error f) ∧
      ∃ k, load [.value] "saved" (storing (versioned (.int 1))) = .ok k ∧
        ∀ s, List.Forall₂ (Update.LoadedAs [.value] s.name) (single.load s) (k.load s) := by
  have hpayload : payload [.value] single = .ok (unsigned singleWritten) := rfl
  have hversion : Text.isWritable version = true := by decide +kernel
  have hwritable : (signed (unsigned singleWritten)).isWritable = true := by
    rw [signed_unsigned]
    exact (restored_versioned (.int hversion)).isWritable
  have hsave : save [.value] single =
      .ok ((signed (unsigned singleWritten)).document, digest (unsigned singleWritten)) := by
    rw [save, hpayload]
    simp [bind, Except.bind, Json.writable, Json.writableIf, hwritable, pure, Except.pure]
  obtain ⟨-, hall⟩ := tampered_checkpoint_refused hpayload hsave
  refine ⟨_, _, _, hpayload, hsave, ?_, ?_⟩
  · obtain ⟨content, t, hfile, hread, hparse⟩ := parse_storing (restored_versioned .bool)
    refine (hall _ _ _ _ _ hfile hread hparse).1 rfl ?_ not_collides_versioned
    intro hsame
    rw [signed_unsigned] at hsame
    obtain ⟨w, hw, hsame⟩ := hsame.exists_find? (by simp [Named.Distinct, digestName])
      (rfl : Named.find? _ (Text.ofString "version") = some (Json.int version))
    cases hw
    cases hsame
  · obtain ⟨content, t, hfile, hread, hparse⟩ :=
      parse_storing (restored_versioned (.int hversion))
    refine (hall _ _ _ _ _ hfile hread hparse).2 ?_
    rw [signed_unsigned]
    exact Json.same_of_sorted _ _ rfl

end Checkpoint

end ExpiryAudit
