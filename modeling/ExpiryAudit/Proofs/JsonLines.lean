import ExpiryAudit.Proofs.JsonReading

/-!
# One line and indented lines

Both forms in which values are written are texts of these values, with white space of their
own, so that what was written is read as the value that it was written for. All that is
written is printable and in ASCII, apart from the ends of lines.
-/
namespace ExpiryAudit.Json

/-! ## One line -/

/-- An array has the texts that are made of the texts of its items. -/
theorem Spells.arr_map {room : Nat} {items : List Json} (gaps : Gaps) (text : Json → List Char)
    (each : ∀ v ∈ items, Spells room v (text v)) :
    Spells (room + 1) (.arr items) ('[' :: gaps.body ']' (items.map text)) := by
  have h := @Spells.arr room (items.map fun v => (v, text v)) gaps fun i hi => by
    obtain ⟨v, hv, rfl⟩ := List.mem_map.1 hi
    exact each v hv
  simpa [Function.comp_def] using h

/-- An object has the texts that are made of the texts of its members. -/
theorem Spells.obj_map {room : Nat} {members : List (Text × Json)} (gaps : Gaps)
    (text : Json → List Char) (distinct : Named.Distinct members)
    (each : ∀ m ∈ members, Spells room m.2 (text m.2)) :
    Spells (room + 1) (.obj members)
      ('{' :: gaps.body '}' (members.map fun m => memberText m.1 (text m.2))) := by
  have h := @Spells.obj room (members.map fun m => (m.1, m.2, text m.2)) gaps
    (distinct.map fun v => (v, text v)) fun m hm => by
      obtain ⟨e, he, rfl⟩ := List.mem_map.1 hm
      exact each e he
  simpa [Function.comp_def] using h

/-- White space on one line. -/
def Gaps.spaced : Gaps where
  opening := []
  between := [' ']
  closing := []
  blank_opening := by simp [Blank]
  blank_between := by simp [Blank, isSpace]
  blank_closing := by simp [Blank]

theorem writeItems_eq (items : List Json) :
    writeItems .spaced items = Gaps.spaced.body ']' (items.map (write .spaced)) := by
  cases items with
  | nil => rfl
  | cons v items =>
    show _ = Gaps.spaced.listed ']' _
    induction items generalizing v with
    | nil => simp [writeItems, Gaps.listed, Gaps.spaced]
    | cons w items ih =>
      rw [writeItems, ih w, List.append_assoc]
      rfl

theorem writeMembers_eq (members : List (Text × Json)) : writeMembers .spaced members =
    Gaps.spaced.body '}' (members.map fun m => memberText m.1 (write .spaced m.2)) := by
  cases members with
  | nil => rfl
  | cons m members =>
    show _ = Gaps.spaced.listed '}' _
    induction members generalizing m with
    | nil =>
      simp [writeMembers, Gaps.listed, Gaps.spaced, memberText, Separators.spaced]
    | cons e members ih =>
      rw [writeMembers, ih e]
      simp [Gaps.listed, Gaps.spaced, memberText, Separators.spaced]

theorem Restored.spells_write {room : Nat} {v : Json} (h : Restored room v) :
    Spells room v (write .spaced v) := by
  induction h with
  | null => exact .null
  | bool => exact .bool
  | int writable => exact .int writable
  | float => exact .float
  | str => exact .str
  | arr _ ih =>
    rw [write, writeItems_eq]
    exact .arr_map .spaced _ ih
  | obj distinct _ ih =>
    rw [write, writeMembers_eq]
    exact .obj_map .spaced _ distinct ih

/-! ## Indented lines -/

theorem blank_newLine (level : Nat) : Blank (newLine level) := by
  simp [Blank, newLine, isSpace]

/-- White space in a container at a level. -/
def Gaps.indented (level : Nat) : Gaps where
  opening := newLine (level + 1)
  between := newLine (level + 1)
  closing := newLine level
  blank_opening := blank_newLine _
  blank_between := blank_newLine _
  blank_closing := blank_newLine _

theorem indent_arr (level : Nat) (items : List Json) : indent level (.arr items) =
    '[' :: (Gaps.indented level).body ']' (items.map (indent (level + 1))) := by
  have hlisted : ∀ v items, indentItems (level + 1) (v :: items) =
      (Gaps.indented level).listed ']' ((v :: items).map (indent (level + 1))) := by
    intro v items
    induction items generalizing v with
    | nil => rfl
    | cons w items ih =>
      rw [indentItems, ih w]
      simp [Gaps.listed, Gaps.indented]
  cases items with
  | nil => rfl
  | cons v items =>
    rw [indent, hlisted]
    · rfl
    · exact List.cons_ne_nil _ _

theorem indent_obj (level : Nat) (members : List (Text × Json)) : indent level (.obj members) =
    '{' :: (Gaps.indented level).body '}'
      (members.map fun m => memberText m.1 (indent (level + 1) m.2)) := by
  have hlisted : ∀ m members, indentMembers (level + 1) (m :: members) =
      (Gaps.indented level).listed '}'
        ((m :: members).map fun m => memberText m.1 (indent (level + 1) m.2)) := by
    intro m members
    induction members generalizing m with
    | nil => simp [indentMembers, Gaps.listed, Gaps.indented, memberText]
    | cons e members ih =>
      rw [indentMembers, ih e]
      simp [Gaps.listed, Gaps.indented, memberText]
  cases members with
  | nil => rfl
  | cons m members =>
    rw [indent, hlisted]
    · rfl
    · exact List.cons_ne_nil _ _

theorem Restored.spells_indent {room : Nat} {v : Json} (h : Restored room v) :
    ∀ level, Spells room v (indent level v) := by
  induction h with
  | null => exact fun _ => .null
  | bool => exact fun _ => .bool
  | int writable => exact fun _ => .int writable
  | float => exact fun _ => .float
  | str => exact fun _ => .str
  | arr _ ih =>
    intro level
    rw [indent_arr]
    exact .arr_map _ _ fun v hv => ih v hv _
  | obj distinct _ ih =>
    intro level
    rw [indent_obj]
    exact .obj_map _ _ distinct fun m hm => ih m hm _

/-- A document is read as the sorted value. -/
theorem Restored.parse_document {v : Json} (h : Restored depthLimit v) :
    parse v.document.toList = .ok v.sorted := by
  rw [document, String.toList_ofList]
  exact (h.sorted.spells_indent 0).parse

/-- A line is read as the value. -/
theorem Restored.parse_write {v : Json} (h : Restored depthLimit v) :
    parse (write .spaced v) = .ok v := h.spells_write.parse

/-! ## Characters of texts -/

mutual

theorem isPlain_write (v : Json) : ∀ c ∈ write .spaced v, IsPlain c := by
  cases v with
  | null => exact isPlain_of_all (by decide)
  | bool b => cases b <;> exact isPlain_of_all (by decide)
  | int n => exact isPlain_decimal n
  | float x => exact isPlain_float x
  | str s => exact isPlain_writeString s
  | arr items => exact List.forall_mem_cons.2 ⟨by decide, isPlain_writeItems items⟩
  | obj members => exact List.forall_mem_cons.2 ⟨by decide, isPlain_writeMembers members⟩

theorem isPlain_writeItems (items : List Json) : ∀ c ∈ writeItems .spaced items, IsPlain c := by
  cases items with
  | nil => exact isPlain_of_all (by decide)
  | cons v rest =>
    have hv := isPlain_write v
    have hrest := isPlain_writeItems rest
    cases rest with
    | nil => exact List.forall_mem_append.2 ⟨hv, isPlain_of_all (by decide)⟩
    | cons w rest =>
      exact List.forall_mem_append.2 ⟨List.forall_mem_append.2 ⟨hv, isPlain_of_all (by decide)⟩, hrest⟩

theorem isPlain_writeMembers (members : List (Text × Json)) :
    ∀ c ∈ writeMembers .spaced members, IsPlain c := by
  cases members with
  | nil => exact isPlain_of_all (by decide)
  | cons m rest =>
    obtain ⟨name, v⟩ := m
    have hname := isPlain_writeString name
    have hv := isPlain_write v
    have hrest := isPlain_writeMembers rest
    have hcolon : ∀ c ∈ Separators.spaced.member, IsPlain c := isPlain_of_all (by decide)
    cases rest with
    | nil =>
      exact List.forall_mem_append.2 ⟨List.forall_mem_append.2
        ⟨List.forall_mem_append.2 ⟨hname, hcolon⟩, hv⟩, isPlain_of_all (by decide)⟩
    | cons e rest =>
      exact List.forall_mem_append.2 ⟨List.forall_mem_append.2 ⟨List.forall_mem_append.2
        ⟨List.forall_mem_append.2 ⟨hname, hcolon⟩, hv⟩, isPlain_of_all (by decide)⟩, hrest⟩

end

/-- What holds of the texts and of all that is put around them holds of the whole. -/
theorem Gaps.forall_mem_body {P : Char → Prop} {gaps : Gaps} {close : Char}
    (hopening : ∀ c ∈ gaps.opening, P c) (hbetween : ∀ c ∈ ',' :: gaps.between, P c)
    (hclosing : ∀ c ∈ gaps.closing ++ [close], P c) {texts : List (List Char)}
    (htexts : ∀ s ∈ texts, ∀ c ∈ s, P c) : ∀ c ∈ gaps.body close texts, P c := by
  have hlisted : ∀ c ∈ gaps.listed close texts, P c := by
    induction texts with
    | nil =>
      exact fun c hc => hclosing c (List.mem_append_right _ hc)
    | cons s rest ih =>
      obtain ⟨hs, hrest⟩ := List.forall_mem_cons.1 htexts
      cases rest with
      | nil =>
        rw [listed, List.append_assoc]
        exact List.forall_mem_append.2 ⟨hs, hclosing⟩
      | cons t rest =>
        rw [listed, ← List.cons_append]
        exact List.forall_mem_append.2 ⟨hs, List.forall_mem_append.2 ⟨hbetween, ih hrest⟩⟩
  cases texts with
  | nil => exact hlisted
  | cons s rest => exact List.forall_mem_append.2 ⟨hopening, hlisted⟩

/-- Lines hold nothing else but their ends. -/
theorem Restored.isPlain_indent {room : Nat} {v : Json} (h : Restored room v) :
    ∀ level, ∀ c ∈ indent level v, IsPlain c ∨ c = '\n' := by
  have hnewLine : ∀ level, ∀ c ∈ newLine level, IsPlain c ∨ c = '\n' := by
    intro level
    refine List.forall_mem_cons.2 ⟨.inr rfl, fun c hc => .inl ?_⟩
    rw [List.eq_of_mem_replicate hc]
    decide
  have hplain : ∀ s : List Char, (∀ c ∈ s, IsPlain c) → ∀ c ∈ s, IsPlain c ∨ c = '\n' :=
    fun s hs c hc => .inl (hs c hc)
  have hbody : ∀ (level : Nat) (close : Char), IsPlain close → ∀ texts : List (List Char),
      (∀ s ∈ texts, ∀ c ∈ s, IsPlain c ∨ c = '\n') →
      ∀ c ∈ (Gaps.indented level).body close texts, IsPlain c ∨ c = '\n' :=
    fun level close hclose texts => Gaps.forall_mem_body (hnewLine _)
      (List.forall_mem_cons.2 ⟨.inl (by decide), hnewLine _⟩)
      (List.forall_mem_append.2 ⟨hnewLine _, List.forall_mem_singleton.2 (.inl hclose)⟩)
  induction h with
  | null | bool | int | float | str => exact fun _ => hplain _ (isPlain_write _)
  | arr _ ih =>
    intro level
    rw [indent_arr]
    refine List.forall_mem_cons.2 ⟨.inl (by decide), hbody level _ (by decide) _ ?_⟩
    intro s hs
    obtain ⟨v, hv, rfl⟩ := List.mem_map.1 hs
    exact ih v hv _
  | obj _ _ ih =>
    intro level
    rw [indent_obj]
    refine List.forall_mem_cons.2 ⟨.inl (by decide), hbody level _ (by decide) _ ?_⟩
    intro s hs
    obtain ⟨m, hm, rfl⟩ := List.mem_map.1 hs
    exact List.forall_mem_append.2 ⟨hplain _ (isPlain_writeString m.1),
      List.forall_mem_cons.2 ⟨.inl (by decide), List.forall_mem_cons.2
        ⟨.inl (by decide), ih m hm _⟩⟩⟩

theorem Restored.not_mem_indent {room : Nat} {v : Json} (h : Restored room v) (level : Nat) :
    '\r' ∉ indent level v := fun hc => by
  have hall := h.isPlain_indent level _ hc
  exact absurd hall (by decide)

end ExpiryAudit.Json
