import ExpiryAudit.Proofs.JsonReading
import Mathlib.Data.List.Perm.Basic

/-!
# Canonical texts

The shortest text of a value determines the value, and sorting forgets nothing but the order of
members. So two values have the same canonical text only if they are the same up to the order of
the members in their objects.
-/
namespace ExpiryAudit.Json

/-! ## Values up to the order of members -/

/-- Values that differ at most in the order of the members of their objects. -/
inductive Same : Json → Json → Prop
  | null : Same .null .null
  | bool {b : Bool} : Same (.bool b) (.bool b)
  | int {n : Int} : Same (.int n) (.int n)
  | float {x : Binary64} : Same (.float x) (.float x)
  | str {s : Text} : Same (.str s) (.str s)
  | arr {pairs : List (Json × Json)} (each : ∀ p ∈ pairs, Same p.1 p.2) :
      Same (.arr (pairs.map (·.1))) (.arr (pairs.map (·.2)))
  | obj {members : List (Text × Json)} {pairs : List ((Text × Json) × Text × Json)}
      (order : members.Perm (pairs.map (·.1))) (names : ∀ p ∈ pairs, p.1.1 = p.2.1)
      (each : ∀ p ∈ pairs, Same p.1.2 p.2.2) :
      Same (.obj members) (.obj (pairs.map (·.2)))

/-- Members of one name with values that are the same. -/
def SameMember (m n : Text × Json) : Prop := m.1 = n.1 ∧ m.2.Same n.2

theorem exists_pairs {α β : Type} {R : α → β → Prop} {xs : List α} {ys : List β}
    (h : List.Forall₂ R xs ys) :
    ∃ pairs : List (α × β), xs = pairs.map (·.1) ∧ ys = pairs.map (·.2) ∧
      ∀ p ∈ pairs, R p.1 p.2 := by
  have hle := Nat.le_of_eq h.length_eq
  have hge := Nat.le_of_eq h.length_eq.symm
  exact ⟨xs.zip ys, (List.map_fst_zip hle).symm, (List.map_snd_zip hge).symm,
    fun _ hp => List.forall₂_zip h hp⟩

theorem same_arr_iff {v : Json} {items : List Json} :
    v.Same (.arr items) ↔ ∃ others, v = .arr others ∧ List.Forall₂ Same others items := by
  constructor
  · intro h
    generalize hw : Json.arr items = w at h
    cases h with
    | @arr pairs each =>
      cases hw
      exact ⟨_, rfl, List.forall₂_map_left_iff.2 (List.forall₂_map_right_iff.2
        (List.forall₂_same.2 each))⟩
    | _ => cases hw
  · rintro ⟨others, rfl, h⟩
    obtain ⟨pairs, rfl, rfl, each⟩ := exists_pairs h
    exact .arr each

theorem same_obj_iff {v : Json} {members : List (Text × Json)} :
    v.Same (.obj members) ↔ ∃ others ordered, v = .obj others ∧ others.Perm ordered ∧
      List.Forall₂ SameMember ordered members := by
  constructor
  · intro h
    generalize hw : Json.obj members = w at h
    cases h with
    | @obj others pairs order names each =>
      cases hw
      exact ⟨_, _, rfl, order, List.forall₂_map_left_iff.2 (List.forall₂_map_right_iff.2
        (List.forall₂_same.2 fun p hp => ⟨names p hp, each p hp⟩))⟩
    | _ => cases hw
  · rintro ⟨others, ordered, rfl, hperm, h⟩
    obtain ⟨pairs, rfl, rfl, each⟩ := exists_pairs h
    exact .obj hperm (fun p hp => (each p hp).1) fun p hp => (each p hp).2

/-! ## Sorted values -/

mutual

theorem isWritable_sorted (v : Json) : v.sorted.isWritable = v.isWritable := by
  cases v with
  | arr items =>
    rw [sorted_arr, Bool.eq_iff_iff, isWritable_arr_iff, isWritable_arr_iff, List.forall_mem_map]
    exact forall₂_congr fun v hv => by rw [isWritable_sorted_items items v hv]
  | obj members =>
    rw [sorted_obj, Bool.eq_iff_iff, isWritable_obj_iff, isWritable_obj_iff]
    simp only [List.mem_mergeSort, List.forall_mem_map]
    exact forall₂_congr fun m hm => by rw [isWritable_sorted_members members m hm]
  | _ => rfl

theorem isWritable_sorted_items (items : List Json) :
    ∀ v ∈ items, v.sorted.isWritable = v.isWritable := by
  cases items with
  | nil => exact List.forall_mem_nil _
  | cons v rest =>
    exact List.forall_mem_cons.2 ⟨isWritable_sorted v, isWritable_sorted_items rest⟩

theorem isWritable_sorted_members (members : List (Text × Json)) :
    ∀ m ∈ members, m.2.sorted.isWritable = m.2.isWritable := by
  cases members with
  | nil => exact List.forall_mem_nil _
  | cons m rest =>
    obtain ⟨name, v⟩ := m
    exact List.forall_mem_cons.2 ⟨isWritable_sorted v, isWritable_sorted_members rest⟩

end

theorem inOrder_mergeSort {members : List (Text × Json)} (h : Named.Distinct members) :
    InOrder (members.mergeSort byName) := by
  have hdistinct := List.pairwise_map.1 (h.perm (List.mergeSort_perm members byName).symm)
  refine ((pairwise_mergeSort_byName members).and hdistinct).imp fun ⟨hle, hne⟩ => ?_
  by_contra hlt
  exact hne (Text.le_antisymm (of_decide_eq_true hle) (Text.not_lt.1 hlt))

/-- Values that are the same are sorted to the same value, if names are distinct. -/
theorem Same.sorted_eq {v w : Json} (h : v.Same w) {room : Nat} (hv : Restored room v) :
    v.sorted = w.sorted := by
  induction h generalizing room with
  | null | bool | int | float | str => rfl
  | @arr pairs _ ih =>
    cases hv with
    | arr each =>
      rw [sorted_arr, sorted_arr, List.map_map, List.map_map]
      exact congrArg Json.arr (List.map_congr_left fun p hp =>
        ih p hp (each p.1 (List.mem_map.2 ⟨p, hp, rfl⟩)))
  | @obj members pairs order names _ ih =>
    cases hv with
    | obj distinct each =>
      have hvalues : (pairs.map (·.1)).map (fun m => (m.1, m.2.sorted)) =
          (pairs.map (·.2)).map fun m => (m.1, m.2.sorted) := by
        rw [List.map_map, List.map_map]
        refine List.map_congr_left fun p hp => Prod.ext (names p hp) ?_
        exact ih p hp (each p.1 (order.mem_iff.2 (List.mem_map.2 ⟨p, hp, rfl⟩)))
      have hperm : (members.map fun m => (m.1, m.2.sorted)).Perm
          ((pairs.map (·.2)).map fun m => (m.1, m.2.sorted)) := hvalues ▸ order.map _
      have hinOrder := inOrder_mergeSort ((distinct.map Json.sorted).perm hperm)
      rw [sorted_obj, sorted_obj]
      exact congrArg Json.obj
        (hinOrder.mergeSort_eq (hperm.trans (List.mergeSort_perm _ _).symm))

theorem exists_perm_of_map_perm {α β : Type} {f : α → β} {xs ys : List α}
    (h : (xs.map f).Perm (ys.map f)) : ∃ zs, xs.Perm zs ∧ zs.map f = ys.map f := by
  have hcomp : Relation.Comp (fun bs as => bs = as.map f) List.Perm (ys.map f) xs := by
    rw [List.eq_map_comp_perm]
    exact h.symm
  obtain ⟨zs, hzs, hperm⟩ := hcomp
  exact ⟨zs, hperm.symm, hzs.symm⟩

/-! ## What sorting keeps -/

/-- Neither an array nor an object. -/
def isLeaf : Json → Bool
  | arr _ | obj _ => false
  | _ => true

theorem sorted_of_isLeaf {v : Json} (h : v.isLeaf = true) : v.sorted = v := by
  cases v with
  | arr | obj => cases h
  | _ => rfl

theorem isLeaf_sorted (v : Json) : v.sorted.isLeaf = v.isLeaf := by
  cases v with
  | arr => rw [sorted_arr]; rfl
  | obj => rw [sorted_obj]; rfl
  | _ => rfl

theorem same_self_of_isLeaf {v : Json} (h : v.isLeaf = true) : v.Same v := by
  cases v with
  | null => exact .null
  | bool => exact .bool
  | int => exact .int
  | float => exact .float
  | str => exact .str
  | arr | obj => cases h

theorem same_of_sorted_leaf {v w : Json} (hv : v.isLeaf = true) (h : v.sorted = w.sorted) :
    v.Same w := by
  have hw : w.isLeaf = true := by rw [← isLeaf_sorted, ← h, isLeaf_sorted, hv]
  rw [sorted_of_isLeaf hv, sorted_of_isLeaf hw] at h
  exact h ▸ same_self_of_isLeaf hv

mutual

/-- Values that are sorted to the same value are the same. -/
theorem same_of_sorted (v w : Json) (h : v.sorted = w.sorted) : v.Same w := by
  cases v with
  | arr items =>
    rw [sorted_arr] at h
    cases w with
    | arr others =>
      rw [sorted_arr] at h
      have hmap := Json.arr.inj h
      rw [← List.forall₂_eq_eq_eq, List.forall₂_map_left_iff, List.forall₂_map_right_iff] at hmap
      refine same_arr_iff.2 ⟨items, rfl, ?_⟩
      exact ((List.forall₂_and_left _ _).2 ⟨same_of_sorted_items items, hmap⟩).imp
        fun _ _ h => h.1 _ h.2
    | obj => rw [sorted_obj] at h; cases h
    | _ => cases h
  | obj members =>
    rw [sorted_obj] at h
    cases w with
    | obj others =>
      rw [sorted_obj] at h
      have hperm : (members.map fun m => (m.1, m.2.sorted)).Perm
          (others.map fun m => (m.1, m.2.sorted)) := by
        refine (List.mergeSort_perm _ byName).symm.trans ?_
        rw [Json.obj.inj h]
        exact List.mergeSort_perm _ _
      obtain ⟨ordered, horder, hmap⟩ := exists_perm_of_map_perm hperm
      rw [← List.forall₂_eq_eq_eq, List.forall₂_map_left_iff, List.forall₂_map_right_iff] at hmap
      have hsame : ∀ m ∈ ordered, ∀ w, m.2.sorted = w.sorted → m.2.Same w := fun m hm =>
        same_of_sorted_members members m (horder.mem_iff.2 hm)
      refine same_obj_iff.2 ⟨members, ordered, rfl, horder, ?_⟩
      refine ((List.forall₂_and_left _ _).2 ⟨hsame, hmap⟩).imp fun m n ⟨hm, hn⟩ => ?_
      obtain ⟨hname, hvalue⟩ := Prod.mk.inj hn
      exact ⟨hname, hm _ hvalue⟩
    | arr => rw [sorted_arr] at h; cases h
    | _ => cases h
  | null | bool | int | float | str => exact same_of_sorted_leaf rfl h

theorem same_of_sorted_items (items : List Json) :
    ∀ v ∈ items, ∀ w, v.sorted = w.sorted → v.Same w := by
  cases items with
  | nil => exact List.forall_mem_nil _
  | cons v rest => exact List.forall_mem_cons.2 ⟨same_of_sorted v, same_of_sorted_items rest⟩

theorem same_of_sorted_members (members : List (Text × Json)) :
    ∀ m ∈ members, ∀ w, m.2.sorted = w.sorted → m.2.Same w := by
  cases members with
  | nil => exact List.forall_mem_nil _
  | cons m rest =>
    obtain ⟨name, v⟩ := m
    exact List.forall_mem_cons.2 ⟨same_of_sorted v, same_of_sorted_members rest⟩

end

/-! ## Texts that determine what follows them -/

theorem Reads.unique {room : Nat} {v w : Json} {s t rest others : List Char} (hv : Reads room v s)
    (hw : Reads room w t) (hrest : EndsNumber rest) (hothers : EndsNumber others)
    (h : s ++ rest = t ++ others) : v = w ∧ rest = others := by
  have hfirst := hv (s.length + t.length) rest hrest (Nat.le_add_right _ _)
  have hsecond := hw (s.length + t.length) others hothers (Nat.le_add_left _ _)
  rw [← h, hfirst] at hsecond
  exact Prod.mk.inj (Except.ok.inj hsecond)

theorem reads_leaf {v : Json} (hleaf : v.isLeaf = true) (hwritable : v.isWritable = true) :
    Reads 0 v (write .compact v) := by
  cases v with
  | null => exact reads_null 0
  | bool b => cases b <;> exact reads_bool 0 _
  | int n => exact reads_int 0 hwritable
  | float x => exact reads_float 0 x
  | str s => exact reads_str 0 s
  | arr | obj => cases hleaf

theorem leaf_eq_cons {v : Json} (hleaf : v.isLeaf = true) :
    ∃ c s, write .compact v = c :: s ∧ c ≠ ']' ∧ c ≠ '[' ∧ c ≠ '{' := by
  have hnumber : ∀ {c : Char}, (∀ d, d.isDigit = false → d ≠ '-' → c ≠ d) →
      c ≠ ']' ∧ c ≠ '[' ∧ c ≠ '{' := fun hne =>
    ⟨hne _ (by decide) (by decide), hne _ (by decide) (by decide), hne _ (by decide) (by decide)⟩
  cases v with
  | null => exact ⟨_, _, rfl, by decide⟩
  | bool b => cases b <;> exact ⟨_, _, rfl, by decide⟩
  | int n =>
    obtain ⟨c, s, hs, hne⟩ := decimal_eq_cons_ne n
    exact ⟨c, s, hs, hnumber hne⟩
  | float x =>
    cases x with
    | nan => exact ⟨_, _, rfl, by decide⟩
    | signed negative rank hrank =>
      by_cases hfinite : rank = Rank.infinity
      · subst hfinite
        cases negative <;> exact ⟨_, _, rfl, by decide⟩
      · obtain ⟨c, s, hs, hne⟩ := text_signed_eq_cons hrank hfinite negative
        exact ⟨c, s, hs, hnumber hne⟩
  | str s => exact ⟨_, _, rfl, by decide⟩
  | arr | obj => cases hleaf

/-- A text tells by its first character whether it is that of an array or of an object. -/
theorem write_eq_cons (v : Json) : ∃ c s, write .compact v = c :: s ∧ c ≠ ']' ∧
    (c = '[' ↔ ∃ items, v = .arr items) ∧ (c = '{' ↔ ∃ members, v = .obj members) := by
  cases hleaf : v.isLeaf with
  | true =>
    obtain ⟨c, s, hs, hclose, hbracket, hbrace⟩ := leaf_eq_cons hleaf
    refine ⟨c, s, hs, hclose, iff_of_false hbracket ?_, iff_of_false hbrace ?_⟩
    · rintro ⟨items, rfl⟩
      cases hleaf
    · rintro ⟨members, rfl⟩
      cases hleaf
  | false =>
    cases v with
    | arr items => exact ⟨_, _, rfl, by decide, by simp, by simp⟩
    | obj members => exact ⟨_, _, rfl, by decide, by simp, by simp⟩
    | _ => cases hleaf

/-- What comes after a text of the value in a longer text is determined, and so is the value. -/
def Determined (v : Json) : Prop :=
  ∀ w rest others, v.isWritable = true → w.isWritable = true → EndsNumber rest →
    EndsNumber others → write .compact v ++ rest = write .compact w ++ others →
    v = w ∧ rest = others

theorem determined_leaf {v : Json} (hleaf : v.isLeaf = true) : v.Determined := by
  intro w rest others hv hw hrest hothers h
  obtain ⟨c, s, hs, -, hbracket, hbrace⟩ := leaf_eq_cons hleaf
  obtain ⟨d, t, ht, -, harr, hobj⟩ := write_eq_cons w
  have hfirst : c = d := by
    rw [hs, ht] at h
    exact (List.cons.inj h).1
  have hleaf' : w.isLeaf = true := by
    cases w with
    | arr items => exact absurd (hfirst.trans (harr.2 ⟨items, rfl⟩)) hbracket
    | obj members => exact absurd (hfirst.trans (hobj.2 ⟨members, rfl⟩)) hbrace
    | _ => rfl
  exact (reads_leaf hleaf hv).unique (reads_leaf hleaf' hw) hrest hothers h

/-! ## Sequences -/

section Sequences

variable {α : Type} (text : α → List Char) (close : Char)

/-- Texts with a comma before each of them, and what closes the container. -/
def following : List α → List Char
  | [] => [close]
  | x :: rest => ',' :: (text x ++ following rest)

/-- Texts with commas in between, and what closes the container. -/
def enclosed : List α → List Char
  | [] => [close]
  | x :: rest => text x ++ following text close rest

/-- The text of an item determines the item and what comes after it. -/
def DeterminesItem (P : α → Prop) (x : α) : Prop :=
  ∀ y rest others, P y → EndsNumber rest → EndsNumber others →
    text x ++ rest = text y ++ others → x = y ∧ rest = others

variable {text close} {P : α → Prop} (hcomma : close ≠ ',')
  (hends : close.isDigit = false ∧ close ≠ '.' ∧ close ≠ 'e' ∧ close ≠ 'E')
include hcomma hends

theorem following_append_inj {xs : List α} (hxs : ∀ x ∈ xs, DeterminesItem text P x) :
    ∀ {ys : List α} {rest others : List Char}, (∀ y ∈ ys, P y) →
      following text close xs ++ rest = following text close ys ++ others →
      xs = ys ∧ rest = others := by
  have hfollowing : ∀ (xs : List α) rest, EndsNumber (following text close xs ++ rest) := by
    intro xs rest
    cases xs with
    | nil => exact endsNumber_cons hends _
    | cons x xs => exact endsNumber_cons (by decide) _
  induction xs with
  | nil =>
    intro ys rest others _ h
    cases ys with
    | nil => exact ⟨rfl, (List.cons.inj h).2⟩
    | cons y ys => exact absurd (List.cons.inj h).1 hcomma
  | cons x xs ih =>
    intro ys rest others hall h
    obtain ⟨hx, hxs⟩ := List.forall_mem_cons.1 hxs
    cases ys with
    | nil => exact absurd (List.cons.inj h).1.symm hcomma
    | cons y ys =>
      obtain ⟨hy, hys⟩ := List.forall_mem_cons.1 hall
      have h : text x ++ following text close xs ++ rest =
          text y ++ following text close ys ++ others := (List.cons.inj h).2
      rw [List.append_assoc, List.append_assoc] at h
      obtain ⟨rfl, htail⟩ := hx y _ _ hy (hfollowing _ _) (hfollowing _ _) h
      obtain ⟨rfl, rfl⟩ := ih hxs hys htail
      exact ⟨rfl, rfl⟩

/-- A sequence is determined by its text, if every item is and none starts as the closing
character. -/
theorem enclosed_append_inj (hstart : ∀ x, ∃ c s, text x = c :: s ∧ c ≠ close) {xs : List α}
    (hxs : ∀ x ∈ xs, DeterminesItem text P x) {ys : List α} {rest others : List Char}
    (hys : ∀ y ∈ ys, P y)
    (h : enclosed text close xs ++ rest = enclosed text close ys ++ others) :
    xs = ys ∧ rest = others := by
  cases xs with
  | nil =>
    cases ys with
    | nil => exact ⟨rfl, (List.cons.inj h).2⟩
    | cons y ys =>
      obtain ⟨c, s, hs, hc⟩ := hstart y
      rw [enclosed, enclosed, hs] at h
      exact absurd (List.cons.inj h).1.symm hc
  | cons x xs =>
    cases ys with
    | nil =>
      obtain ⟨c, s, hs, hc⟩ := hstart x
      rw [enclosed, enclosed, hs] at h
      exact absurd (List.cons.inj h).1 hc
    | cons y ys =>
      -- A comma before the first item makes this a case of the items that follow it.
      refine following_append_inj hcomma hends hxs hys ?_
      exact congrArg (',' :: ·) h

end Sequences

theorem writeItems_compact (items : List Json) :
    writeItems .compact items = enclosed (write .compact) ']' items := by
  cases items with
  | nil => rfl
  | cons v items =>
    induction items generalizing v with
    | nil => rfl
    | cons w items ih =>
      rw [writeItems, ih, List.append_assoc]
      rfl

/-- The text of a member. -/
def compactMember (m : Text × Json) : List Char :=
  writeString m.1 ++ ':' :: write .compact m.2

theorem writeMembers_compact (members : List (Text × Json)) :
    writeMembers .compact members = enclosed compactMember '}' members := by
  cases members with
  | nil => rfl
  | cons m members =>
    induction members generalizing m with
    | nil => simp [writeMembers, enclosed, following, compactMember, Separators.compact]
    | cons e members ih =>
      rw [writeMembers, ih]
      simp [enclosed, following, compactMember, Separators.compact]

/-- The name of a member is determined by its text, and the value by that of the value. -/
theorem determinesItem_compactMember {m : Text × Json} (h : m.2.Determined)
    (hm : m.2.isWritable = true) :
    DeterminesItem compactMember (fun n : Text × Json => n.2.isWritable = true) m := by
  intro n rest others hn hrest hothers heq
  have hname := readString_writeString 0 m.1 (':' :: write .compact m.2 ++ rest)
  have hname' := readString_writeString 0 n.1 (':' :: write .compact n.2 ++ others)
  simp only [compactMember, writeString, List.cons_append, List.append_assoc, List.nil_append,
    List.cons.injEq, true_and] at heq
  rw [List.cons_append] at hname hname'
  rw [heq, hname'] at hname
  obtain ⟨hnames, htail⟩ := Prod.mk.inj (Except.ok.inj hname)
  obtain ⟨hvalues, hrests⟩ := h n.2 rest others hm hn hrest hothers (List.cons.inj htail).2.symm
  exact ⟨Prod.ext hnames.symm hvalues, hrests⟩

mutual

theorem determined (v : Json) : v.Determined := by
  cases v with
  | arr items =>
    intro w rest others hv hw _ _ h
    obtain ⟨c, s, hs, -, harr, -⟩ := write_eq_cons w
    have hfirst : '[' = c := by
      rw [hs] at h
      exact (List.cons.inj h).1
    obtain ⟨items', rfl⟩ := harr.1 hfirst.symm
    rw [write, write, writeItems_compact, writeItems_compact] at h
    have hstart : ∀ v, ∃ c s, write .compact v = c :: s ∧ c ≠ ']' := fun v => by
      obtain ⟨c, s, hs, hc, -⟩ := write_eq_cons v
      exact ⟨c, s, hs, hc⟩
    have heach := determined_items items
    obtain ⟨rfl, rfl⟩ := enclosed_append_inj (by decide) (by decide) hstart
      (fun x hx y r r' => heach x hx y r r' (isWritable_arr_iff.1 hv x hx))
      (isWritable_arr_iff.1 hw) (List.cons.inj h).2
    exact ⟨rfl, rfl⟩
  | obj members =>
    intro w rest others hv hw _ _ h
    obtain ⟨c, s, hs, -, -, hobj⟩ := write_eq_cons w
    have hfirst : '{' = c := by
      rw [hs] at h
      exact (List.cons.inj h).1
    obtain ⟨members', rfl⟩ := hobj.1 hfirst.symm
    rw [write, write, writeMembers_compact, writeMembers_compact] at h
    have heach := determined_members members
    obtain ⟨rfl, rfl⟩ := enclosed_append_inj (by decide) (by decide)
      (fun m => ⟨'"', _, rfl, by decide⟩)
      (fun m hm => determinesItem_compactMember (heach m hm) (isWritable_obj_iff.1 hv m hm))
      (isWritable_obj_iff.1 hw) (List.cons.inj h).2
    exact ⟨rfl, rfl⟩
  | null | bool | int | float | str => exact determined_leaf rfl

theorem determined_items (items : List Json) : ∀ v ∈ items, v.Determined := by
  cases items with
  | nil => exact List.forall_mem_nil _
  | cons v rest => exact List.forall_mem_cons.2 ⟨determined v, determined_items rest⟩

theorem determined_members (members : List (Text × Json)) :
    ∀ m ∈ members, m.2.Determined := by
  cases members with
  | nil => exact List.forall_mem_nil _
  | cons m rest =>
    obtain ⟨name, v⟩ := m
    exact List.forall_mem_cons.2 ⟨determined v, determined_members rest⟩

end

/-- The shortest text of a value determines the value. -/
theorem write_injective {v w : Json} (hv : v.isWritable = true) (hw : w.isWritable = true)
    (h : write .compact v = write .compact w) : v = w :=
  (determined v w [] [] hv hw (fun _ hc => nomatch hc) (fun _ hc => nomatch hc)
    (by rw [List.append_nil, List.append_nil, h])).1

/-- The canonical text determines a value up to the order of members. -/
theorem same_of_canonical {v w : Json} (hv : v.isWritable = true) (hw : w.isWritable = true)
    (h : v.canonical = w.canonical) : v.Same w := by
  refine same_of_sorted v w (write_injective ?_ ?_ (String.ofList_inj.1 h))
  · rw [isWritable_sorted, hv]
  · rw [isWritable_sorted, hw]

theorem Same.canonical_eq {v w : Json} (h : v.Same w) {room : Nat} (hv : Restored room v) :
    v.canonical = w.canonical := by
  rw [canonical, canonical, h.sorted_eq hv]

end ExpiryAudit.Json
