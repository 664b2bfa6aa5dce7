import ExpiryAudit.Proofs.DecimalText
import ExpiryAudit.Proofs.JsonOrder

/-!
# Reading what was written

A value whose members have distinct names, whose whole numbers do not have too many digits
and whose containers are not nested too deep, is what is read from its text, whatever white
space the text has in its containers.
-/
namespace ExpiryAudit.Json

/-- Values that are read back as they were written, with room for a number of containers
in each other. -/
inductive Restored : Nat → Json → Prop
  | null {room : Nat} : Restored room .null
  | bool {room : Nat} {b : Bool} : Restored room (.bool b)
  | int {room : Nat} {n : Int} (writable : Text.isWritable n = true) : Restored room (.int n)
  | float {room : Nat} {x : Binary64} : Restored room (.float x)
  | str {room : Nat} {s : Text} : Restored room (.str s)
  | arr {room : Nat} {items : List Json} (each : ∀ v ∈ items, Restored room v) :
      Restored (room + 1) (.arr items)
  | obj {room : Nat} {members : List (Text × Json)} (distinct : Named.Distinct members)
      (each : ∀ m ∈ members, Restored room m.2) : Restored (room + 1) (.obj members)

theorem areWritable_iff {items : List Json} :
    areWritable items = true ↔ ∀ v ∈ items, v.isWritable = true := by
  induction items with
  | nil => simp [areWritable]
  | cons v rest ih => rw [areWritable, Bool.and_eq_true, ih, List.forall_mem_cons]

theorem areWritableMembers_iff {members : List (Text × Json)} :
    areWritableMembers members = true ↔ ∀ m ∈ members, m.2.isWritable = true := by
  induction members with
  | nil => simp [areWritableMembers]
  | cons m rest ih => rw [areWritableMembers, Bool.and_eq_true, ih, List.forall_mem_cons]

/-- An array can be written if all its items can. -/
theorem isWritable_arr_iff {items : List Json} :
    (arr items).isWritable = true ↔ ∀ v ∈ items, v.isWritable = true := areWritable_iff

theorem isWritable_obj_iff {members : List (Text × Json)} :
    (obj members).isWritable = true ↔ ∀ m ∈ members, m.2.isWritable = true :=
  areWritableMembers_iff

theorem Restored.isWritable {room : Nat} {v : Json} (h : Restored room v) :
    v.isWritable = true := by
  induction h with
  | null | bool | float | str => rfl
  | int writable => exact writable
  | arr _ ih => exact isWritable_arr_iff.2 ih
  | obj _ _ ih => exact isWritable_obj_iff.2 ih

theorem Restored.sorted {room : Nat} {v : Json} (h : Restored room v) :
    Restored room v.sorted := by
  induction h with
  | null => exact .null
  | bool => exact .bool
  | int writable => exact .int writable
  | float => exact .float
  | str => exact .str
  | arr _ ih =>
    rw [sorted_arr]
    refine .arr fun v hv => ?_
    obtain ⟨w, hw, rfl⟩ := List.mem_map.1 hv
    exact ih w hw
  | obj distinct _ ih =>
    rw [sorted_obj]
    refine .obj ((distinct.map Json.sorted).perm (List.mergeSort_perm _ _).symm) fun m hm => ?_
    obtain ⟨e, he, rfl⟩ := List.mem_map.1 (List.mem_mergeSort.1 hm)
    exact ih e he

/-! ## White space -/

/-- The text starts with a character that is no space. -/
def StartsDark (s : List Char) : Prop := ∃ c t, s = c :: t ∧ isSpace c = false

theorem startsDark_cons {c : Char} (hc : isSpace c = false) (s : List Char) :
    StartsDark (c :: s) := ⟨c, s, rfl, hc⟩

theorem StartsDark.append {s : List Char} (h : StartsDark s) (t : List Char) :
    StartsDark (s ++ t) := by
  obtain ⟨c, u, rfl, hc⟩ := h
  exact ⟨c, u ++ t, rfl, hc⟩

theorem skipSpace_of_startsDark {s : List Char} (h : StartsDark s) : skipSpace s = s := by
  obtain ⟨c, t, rfl, hc⟩ := h
  simp [skipSpace, hc]

/-- Nothing but white space. -/
def Blank (gap : List Char) : Prop := ∀ c ∈ gap, isSpace c = true

theorem Blank.skipSpace_append {gap : List Char} (h : Blank gap) {s : List Char}
    (hs : StartsDark s) : skipSpace (gap ++ s) = s := by
  rw [skipSpace, List.dropWhile_append_of_pos h]
  exact skipSpace_of_startsDark hs

/-- White space ends a number, and so does what closes or separates. -/
theorem Blank.endsNumber_append {gap : List Char} (h : Blank gap) {s : List Char}
    (hs : EndsNumber s) : EndsNumber (gap ++ s) := by
  cases gap with
  | nil => exact hs
  | cons c gap =>
    intro d hd
    obtain rfl := Option.some.inj hd
    have hspace := h c List.mem_cons_self
    refine ⟨?_, ?_, ?_, ?_⟩
    · by_contra hdigit
      rw [Bool.not_eq_false] at hdigit
      have hall : ∀ e ∈ [' ', '\t', '\n', '\r'], e.isDigit = false := 
        List.all_iff_forall_prop.1 (by decide)
      have hmem : c ∈ [' ', '\t', '\n', '\r'] := by simpa [isSpace, or_assoc] using hspace
      rw [hall c hmem] at hdigit
      cases hdigit
    all_goals
      rintro rfl
      cases hspace

theorem endsNumber_cons {c : Char} (hc : c.isDigit = false ∧ c ≠ '.' ∧ c ≠ 'e' ∧ c ≠ 'E')
    (s : List Char) : EndsNumber (c :: s) := by
  intro d hd
  obtain rfl := Option.some.inj hd
  exact hc

/-! ## Texts of values -/

/-- The white space in a container. -/
structure Gaps where
  opening : List Char
  between : List Char
  closing : List Char
  blank_opening : Blank opening
  blank_between : Blank between
  blank_closing : Blank closing

namespace Gaps

/-- Texts with a comma between any two of them, and what closes the container. -/
def listed (gaps : Gaps) (close : Char) : List (List Char) → List Char
  | [] => [close]
  | [s] => s ++ gaps.closing ++ [close]
  | s :: t :: rest => s ++ ',' :: (gaps.between ++ gaps.listed close (t :: rest))

/-- All that follows the opening bracket. -/
def body (gaps : Gaps) (close : Char) : List (List Char) → List Char
  | [] => [close]
  | s :: rest => gaps.opening ++ gaps.listed close (s :: rest)

end Gaps

/-- The text of a member. -/
def memberText (name : Text) (s : List Char) : List Char := writeString name ++ ':' :: ' ' :: s

/-- The texts that a value has, whatever the white space in its containers. -/
inductive Spells : Nat → Json → List Char → Prop
  | null {room : Nat} : Spells room .null "null".toList
  | bool {room : Nat} {b : Bool} : Spells room (.bool b) (write .spaced (.bool b))
  | int {room : Nat} {n : Int} (writable : Text.isWritable n = true) :
      Spells room (.int n) (Text.decimal n)
  | float {room : Nat} {x : Binary64} : Spells room (.float x) (x.text spelling)
  | str {room : Nat} {s : Text} : Spells room (.str s) (writeString s)
  | arr {room : Nat} {items : List (Json × List Char)} (gaps : Gaps)
      (each : ∀ i ∈ items, Spells room i.1 i.2) :
      Spells (room + 1) (.arr (items.map (·.1))) ('[' :: gaps.body ']' (items.map (·.2)))
  | obj {room : Nat} {members : List (Text × Json × List Char)} (gaps : Gaps)
      (distinct : Named.Distinct members) (each : ∀ m ∈ members, Spells room m.2.1 m.2.2) :
      Spells (room + 1) (.obj (members.map fun m => (m.1, m.2.1)))
        ('{' :: gaps.body '}' (members.map fun m => memberText m.1 m.2.2))

/-- A text starts with neither a space nor a closing bracket nor a mark. -/
theorem Spells.eq_cons {room : Nat} {v : Json} {s : List Char} (h : Spells room v s) :
    ∃ c t, s = c :: t ∧ isSpace c = false ∧ c ≠ ']' ∧ c ≠ '\ufeff' := by
  have hnumber : ∀ {c : Char}, (∀ d, d.isDigit = false → d ≠ '-' → c ≠ d) →
      isSpace c = false ∧ c ≠ ']' ∧ c ≠ '\ufeff' := by
    intro c hne
    refine ⟨?_, hne _ (by decide) (by decide), hne _ (by decide) (by decide)⟩
    simp [isSpace, hne]
  cases h with
  | null => exact ⟨_, _, rfl, by decide⟩
  | @bool _ b => cases b <;> exact ⟨_, _, rfl, by decide⟩
  | @int _ n =>
    obtain ⟨c, t, ht, hne⟩ := decimal_eq_cons_ne n
    exact ⟨c, t, ht, hnumber hne⟩
  | @float _ x =>
    cases x with
    | nan => exact ⟨_, _, rfl, by decide⟩
    | signed negative rank hrank =>
      by_cases hfinite : rank = Rank.infinity
      · rw [Binary64.text, if_pos hfinite]
        cases negative <;> exact ⟨_, _, rfl, by decide⟩
      · obtain ⟨c, t, ht, hne⟩ := text_signed_eq_cons hrank hfinite negative
        exact ⟨c, t, ht, hnumber hne⟩
  | str => exact ⟨_, _, rfl, by decide⟩
  | arr => exact ⟨_, _, rfl, by decide⟩
  | obj => exact ⟨_, _, rfl, by decide⟩

theorem Spells.startsDark {room : Nat} {v : Json} {s : List Char} (h : Spells room v s) :
    StartsDark s := by
  obtain ⟨c, t, hs, hc, -⟩ := h.eq_cons
  exact ⟨c, t, hs, hc⟩

/-! ## Simple values -/

/-- The value is read from the text, whatever follows it. -/
def Reads (room : Nat) (v : Json) (s : List Char) : Prop :=
  ∀ fuel rest, EndsNumber rest → s.length ≤ fuel → readValue fuel room (s ++ rest) = .ok (v, rest)

theorem reads_null (room : Nat) : Reads room .null "null".toList := by
  intro fuel rest _ hfuel
  cases fuel with
  | zero => cases hfuel
  | succ fuel => rfl

theorem reads_bool (room : Nat) (b : Bool) : Reads room (.bool b) (write .spaced (.bool b)) := by
  intro fuel rest _ hfuel
  cases b
  · cases fuel with
    | zero => cases hfuel
    | succ fuel => rfl
  · cases fuel with
    | zero => cases hfuel
    | succ fuel => rfl

/-- A text that is no name is read as the number that it is. -/
theorem readValue_number {fuel room : Nat} {v : Json} {c : Char} {s rest : List Char}
    (hc : ∀ d, d.isDigit = false → d ≠ '-' → c ≠ d) (hname : name? (c :: s) = none)
    (hnumber : number? (c :: s) = some (.ok v, rest)) :
    readValue (fuel + 1) room (c :: s) = .ok (v, rest) := by
  have hne : ∀ d, d.isDigit = false → d ≠ '-' → ∀ t, c :: s = d :: t → False :=
    fun d hd hminus t ht => hc d hd hminus (List.cons.inj ht).1
  rw [readValue, hname]
  · simp [hnumber, Except.map]
  · exact hne _ (by decide) (by decide)
  · exact hne _ (by decide) (by decide)
  · exact hne _ (by decide) (by decide)

theorem reads_int {n : Int} (room : Nat) (hn : Text.isWritable n = true) :
    Reads room (.int n) (Text.decimal n) := by
  intro fuel rest hrest hfuel
  obtain ⟨c, s, hs, hne⟩ := decimal_eq_cons_ne n
  have hname := name?_decimal n rest
  have hnumber := number?_decimal hn hrest
  rw [hs] at hname hnumber hfuel ⊢
  cases fuel with
  | zero => cases hfuel
  | succ fuel => exact readValue_number hne hname hnumber

theorem reads_float (room : Nat) (x : Binary64) : Reads room (.float x) (x.text spelling) := by
  intro fuel rest hrest hfuel
  cases fuel with
  | zero =>
    obtain ⟨c, t, hs, -⟩ := (@Spells.float room x).eq_cons
    rw [hs] at hfuel
    cases hfuel
  | succ fuel =>
    cases x with
    | nan => rfl
    | signed negative rank hrank =>
      by_cases hfinite : rank = Rank.infinity
      · subst hfinite
        cases negative <;> rfl
      · obtain ⟨c, s, hs, hne⟩ := text_signed_eq_cons hrank hfinite negative
        obtain ⟨hname, hnumber⟩ := number?_text hrank hfinite negative hrest
        rw [hs] at hname hnumber ⊢
        exact readValue_number hne hname hnumber

theorem reads_str (room : Nat) (s : Text) : Reads room (.str s) (writeString s) := by
  intro fuel rest _ hfuel
  cases fuel with
  | zero => cases hfuel
  | succ fuel =>
    rw [writeString, List.append_assoc, List.cons_append, List.singleton_append, readValue,
      readString_writeString]
    rfl

/-! ## Items and members -/

section Containers

variable {room : Nat} (gaps : Gaps)

/-- What is listed starts as the first of it does. -/
theorem exists_listed_eq (close : Char) (s : List Char) (rest : List (List Char)) :
    ∃ t, gaps.listed close (s :: rest) = s ++ t := by
  cases rest with
  | nil => exact ⟨_, List.append_assoc _ _ _⟩
  | cons t rest => exact ⟨_, rfl⟩

theorem startsDark_listed (close : Char) {s : List Char} (hs : StartsDark s)
    (rest : List (List Char)) : StartsDark (gaps.listed close (s :: rest)) := by
  obtain ⟨t, ht⟩ := exists_listed_eq gaps close s rest
  rw [ht]
  exact hs.append t

/-- The items of an array are read one by one. -/
theorem readItems_listed {items : List (Json × List Char)}
    (hdark : ∀ i ∈ items, StartsDark i.2) (hreads : ∀ i ∈ items, Reads room i.1 i.2)
    (hne : items ≠ []) :
    ∀ fuel done rest, (gaps.listed ']' (items.map (·.2))).length ≤ fuel →
      readItems fuel room done (gaps.listed ']' (items.map (·.2)) ++ rest) =
        .ok (.arr (done.reverse ++ items.map (·.1)), rest) := by
  induction items with
  | nil => exact absurd rfl hne
  | cons i items ih =>
    obtain ⟨v, s⟩ := i
    have hv : Reads room v s := hreads _ List.mem_cons_self
    intro fuel done rest hfuel
    cases items with
    | nil =>
      have hclose : StartsDark (']' :: rest) := startsDark_cons rfl rest
      have hends : EndsNumber (gaps.closing ++ ']' :: rest) :=
        gaps.blank_closing.endsNumber_append (endsNumber_cons (by decide) rest)
      simp only [List.map_cons, List.map_nil, Gaps.listed, List.length_append,
        List.length_cons] at hfuel
      cases fuel with
      | zero => omega
      | succ fuel =>
        simp only [List.map_cons, List.map_nil, Gaps.listed, List.append_assoc,
          List.singleton_append]
        rw [readItems, hv fuel _ hends (by omega)]
        simp [bind, Except.bind, gaps.blank_closing.skipSpace_append hclose]
    | cons j items =>
      have hsecond : StartsDark j.2 := hdark j (by simp)
      simp only [List.map_cons, Gaps.listed, List.length_append, List.length_cons] at hfuel
      cases fuel with
      | zero => omega
      | succ fuel =>
        have hrest := ih (fun x hx => hdark x (List.mem_cons_of_mem _ hx))
          (fun x hx => hreads x (List.mem_cons_of_mem _ hx)) (List.cons_ne_nil _ _) fuel
          (v :: done) rest (by simp only [List.map_cons]; omega)
        have hstart := (startsDark_listed gaps ']' hsecond (items.map (·.2))).append rest
        have hcomma : ∀ t, skipSpace (',' :: t) = ',' :: t := fun t =>
          skipSpace_of_startsDark (startsDark_cons rfl t)
        simp only [List.map_cons] at hrest
        simp only [List.map_cons, Gaps.listed, List.append_assoc, List.cons_append]
        rw [readItems, hv fuel _ (endsNumber_cons (by decide) _) (by omega)]
        simp only [bind, Except.bind, hcomma, gaps.blank_between.skipSpace_append hstart, hrest]
        simp

/-- What follows a member decides whether there are more of them. -/
theorem readMembers_member {v : Json} {s tail : List Char} (hdark : StartsDark s)
    (hreads : Reads room v s) (fuel : Nat) (done : List (Text × Json)) (name : Text)
    (htail : EndsNumber tail) (hfuel : s.length ≤ fuel) :
    readMembers (fuel + 1) room done (memberText name s ++ tail) =
      match skipSpace tail with
      | '}' :: rest => .ok (.obj (Named.insert name v done), rest)
      | ',' :: rest => readMembers fuel room (Named.insert name v done) (skipSpace rest)
      | rest => stop .comma rest := by
  have hcolon : ∀ t, skipSpace (':' :: t) = ':' :: t := fun t =>
    skipSpace_of_startsDark (startsDark_cons rfl t)
  have hblank : skipSpace (' ' :: (s ++ tail)) = s ++ tail :=
    skipSpace_of_startsDark (hdark.append tail)
  have hvalue : readValue fuel room (skipSpace (' ' :: (s ++ tail))) = .ok (v, tail) := by
    rw [hblank, hreads fuel tail htail hfuel]
  rw [memberText, writeString, List.append_assoc, List.append_assoc, List.cons_append,
    List.cons_append, List.cons_append, List.cons_append, List.nil_append, readMembers,
    readString_writeString]
  simp only [bind, Except.bind, hcolon]
  rewrite [hvalue]
  rfl

/-- The members of an object are read one by one. -/
theorem readMembers_listed {members : List (Text × Json × List Char)}
    (hdark : ∀ m ∈ members, StartsDark m.2.2) (hreads : ∀ m ∈ members, Reads room m.2.1 m.2.2)
    (hne : members ≠ []) :
    ∀ fuel (done : List (Text × Json)) rest,
      Named.Distinct (done ++ members.map fun m => (m.1, m.2.1)) →
      (gaps.listed '}' (members.map fun m => memberText m.1 m.2.2)).length ≤ fuel →
      readMembers fuel room done
          (gaps.listed '}' (members.map fun m => memberText m.1 m.2.2) ++ rest) =
        .ok (.obj (done ++ members.map fun m => (m.1, m.2.1)), rest) := by
  induction members with
  | nil => exact absurd rfl hne
  | cons m members ih =>
    obtain ⟨name, v, s⟩ := m
    have hv : Reads room v s := hreads _ List.mem_cons_self
    have hs : StartsDark s := hdark _ List.mem_cons_self
    intro fuel done rest hdistinct hfuel
    have hinsert : Named.insert name v done = done ++ [(name, v)] :=
      Named.insert_of_not_mem v hdistinct.not_mem_of_append
    cases members with
    | nil =>
      have hclose : StartsDark ('}' :: rest) := startsDark_cons rfl rest
      have hends : EndsNumber (gaps.closing ++ '}' :: rest) :=
        gaps.blank_closing.endsNumber_append (endsNumber_cons (by decide) rest)
      simp only [List.map_cons, List.map_nil, Gaps.listed, memberText, List.length_append,
        List.length_cons] at hfuel
      cases fuel with
      | zero => omega
      | succ fuel =>
        have hmember := readMembers_member hs hv fuel done name hends (by omega)
        rw [gaps.blank_closing.skipSpace_append hclose, hinsert] at hmember
        simpa [Gaps.listed] using hmember
    | cons e members =>
      have hquote : StartsDark (memberText e.1 e.2.2) := startsDark_cons rfl _
      have hstart := (startsDark_listed gaps '}' hquote
        (members.map fun m => memberText m.1 m.2.2)).append rest
      have hcomma : ∀ t, skipSpace (',' :: t) = ',' :: t := fun t =>
        skipSpace_of_startsDark (startsDark_cons rfl t)
      simp only [List.map_cons, Gaps.listed, memberText, List.length_append,
        List.length_cons] at hfuel
      cases fuel with
      | zero => omega
      | succ fuel =>
        have hrest := ih (fun x hx => hdark x (List.mem_cons_of_mem _ hx))
          (fun x hx => hreads x (List.mem_cons_of_mem _ hx)) (List.cons_ne_nil _ _) fuel
          (done ++ [(name, v)]) rest (by simpa using hdistinct)
          (by simp only [List.map_cons, memberText]; omega)
        have hmember := readMembers_member hs hv fuel done name
          (endsNumber_cons (c := ',') (by decide) (gaps.between ++
            (gaps.listed '}' ((e :: members).map fun m => memberText m.1 m.2.2) ++ rest)))
          (by omega)
        rw [hcomma] at hmember
        simp only [List.map_cons] at hrest
        simp only [List.map_cons, gaps.blank_between.skipSpace_append hstart, hinsert, hrest] at hmember
        simpa [Gaps.listed] using hmember

end Containers

/-- Every value is read from all of its texts. -/
theorem Spells.reads {room : Nat} {v : Json} {s : List Char} (h : Spells room v s) :
    Reads room v s := by
  induction h with
  | null => exact reads_null _
  | bool => exact reads_bool _ _
  | int writable => exact reads_int _ writable
  | float => exact reads_float _ _
  | str => exact reads_str _ _
  | @arr room items gaps each ih =>
    intro fuel rest hrest hfuel
    cases fuel with
    | zero => cases hfuel
    | succ fuel =>
      cases items with
      | nil => rfl
      | cons i items =>
        have hdark : ∀ j ∈ i :: items, StartsDark j.2 := fun j hj => (each j hj).startsDark
        have hitems := readItems_listed gaps hdark ih (List.cons_ne_nil _ _) fuel [] rest
          (by simp [Gaps.body] at hfuel ⊢; omega)
        have hstart := (startsDark_listed gaps ']' (hdark i List.mem_cons_self)
          (items.map (·.2))).append rest
        obtain ⟨c, t, hs, -, hclose, -⟩ := (each i List.mem_cons_self).eq_cons
        obtain ⟨u, hu⟩ := exists_listed_eq gaps ']' i.2 (items.map (·.2))
        rw [List.map_cons, List.map_cons] at hitems ⊢
        rw [List.cons_append, readValue, if_neg (Nat.succ_ne_zero room), Gaps.body,
          List.append_assoc, gaps.blank_opening.skipSpace_append hstart, Nat.add_sub_cancel]
        rw [hu, hs] at hitems ⊢
        split
        · next h => exact absurd (List.cons.inj h).1 hclose
        · exact hitems
  | @obj room members gaps distinct each ih =>
    intro fuel rest hrest hfuel
    cases fuel with
    | zero => cases hfuel
    | succ fuel =>
      cases members with
      | nil => rfl
      | cons m members =>
        have hdark : ∀ e ∈ m :: members, StartsDark e.2.2 := fun e he => (each e he).startsDark
        have hdistinct : Named.Distinct ((m :: members).map fun m => (m.1, m.2.1)) :=
          distinct.map Prod.fst
        have hmembers := readMembers_listed gaps hdark ih (List.cons_ne_nil _ _) fuel [] rest
          hdistinct (by simp [Gaps.body] at hfuel ⊢; omega)
        have hquote : StartsDark (memberText m.1 m.2.2) := startsDark_cons rfl _
        have hstart := (startsDark_listed gaps '}' hquote
          (members.map fun m => memberText m.1 m.2.2)).append rest
        obtain ⟨u, hu⟩ := exists_listed_eq gaps '}' (memberText m.1 m.2.2)
          (members.map fun m => memberText m.1 m.2.2)
        rw [List.map_cons, List.map_cons] at hmembers ⊢
        rw [List.cons_append, readValue, if_neg (Nat.succ_ne_zero room), Gaps.body,
          List.append_assoc, gaps.blank_opening.skipSpace_append hstart, Nat.add_sub_cancel]
        rw [hu] at hmembers ⊢
        exact hmembers

/-- A text of a value is read as that value. -/
theorem Spells.parse {v : Json} {s : List Char} (h : Spells depthLimit v s) :
    parse s = .ok v := by
  have hread := h.reads (2 * s.length + 2) [] (fun _ hc => nomatch hc) (by omega)
  rw [List.append_nil] at hread
  have hall : readAll s = .ok v := by
    rw [readAll, skipSpace_of_startsDark h.startsDark, hread]
    rfl
  obtain ⟨c, t, hs, -, -, hmark⟩ := h.eq_cons
  rw [hs] at hall ⊢
  rw [Json.parse]
  · rw [hall]
    rfl
  · intro u hu
    exact hmark (List.cons.inj hu).1

end ExpiryAudit.Json
