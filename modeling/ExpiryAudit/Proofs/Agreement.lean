import ExpiryAudit.Host
import ExpiryAudit.Proofs.Named
import Mathlib.Data.List.Perm.Subperm

/-!
# What states of a kind agree on

A single value is nothing or a whole number, a list has whole numbers, and a map has
whole numbers under distinct names. States of one kind agree exactly if they have the
same whole numbers in the same places.
-/
namespace ExpiryAudit

namespace Json

/-- The value is a whole number, possibly written as a truth value. -/
def IsWhole (v : Json) : Prop := v.whole?.isSome

@[simp] theorem isWhole_int (n : Int) : (int n).IsWhole := rfl

theorem IsWhole.areNan_eq_false {v : Json} (hv : v.IsWhole) (w : Json) :
    areNan v w = false := by
  cases v with
  | float x => cases hv
  | _ => rfl

/-- Whole numbers agree exactly if they are the same number. -/
theorem IsWhole.agrees_iff {v w : Json} (hv : v.IsWhole) (hw : w.IsWhole) :
    v.agrees w ↔ v.whole? = w.whole? := by
  cases v <;> first | exact absurd hv Bool.false_ne_true | skip
  all_goals
    cases w <;> first | exact absurd hw Bool.false_ne_true | skip
    all_goals simpa [agrees, whole?] using eq_comm

theorem IsWhole.areNan_eq_false_right {v : Json} (hv : v.IsWhole) (x : Json) :
    areNan x v = false := by
  cases v with
  | float y => cases hv
  | _ => cases x <;> simp [areNan]

/-- Nothing tells two whole numbers apart that are the same number. -/
theorem IsWhole.agrees_congr {v w : Json} (hv : v.IsWhole) (hw : w.IsWhole)
    (h : v.whole? = w.whole?) (x : Json) : x.agrees v = x.agrees w := by
  cases v <;> first | exact absurd hv Bool.false_ne_true | skip
  all_goals
    cases w <;> first | exact absurd hw Bool.false_ne_true | skip
    all_goals cases x <;> simp_all [agrees, whole?]

/-- A value that is nothing or a whole number agrees with one that is such. -/
theorem agrees_iff_whole? {v w : Json} (hv : v = null ∨ v.IsWhole) (hw : w = null ∨ w.IsWhole) :
    v.agrees w ↔ v.whole? = w.whole? := by
  rcases hv with rfl | hv
  · rcases hw with rfl | hw
    · simp
    · obtain ⟨n, hn⟩ := Option.isSome_iff_exists.1 hw
      rw [hn]
      cases w <;> simp [agrees, whole?] at hn ⊢
  · rcases hw with rfl | hw
    · obtain ⟨n, hn⟩ := Option.isSome_iff_exists.1 hv
      rw [hn]
      cases v <;> simp [agrees, whole?] at hn ⊢
    · exact hv.agrees_iff hw

/-- Rows of whole numbers agree exactly if they have the same numbers. -/
theorem agrees_arr_iff {xs ys : List Json} (hxs : ∀ x ∈ xs, x.IsWhole)
    (hys : ∀ y ∈ ys, y.IsWhole) :
    (arr xs).agrees (arr ys) ↔ xs.map whole? = ys.map whole? := by
  rw [agrees]
  induction xs generalizing ys with
  | nil => cases ys <;> simp [agreesItems]
  | cons x xs ih =>
    cases ys with
    | nil => simp [agreesItems]
    | cons y ys =>
      obtain ⟨hx, hxs⟩ := List.forall_mem_cons.1 hxs
      obtain ⟨hy, hys⟩ := List.forall_mem_cons.1 hys
      have hitem := hx.agrees_iff hy
      simp [agreesItems, hx.areNan_eq_false y, ih hxs hys, hitem]

/-- The whole number that is found under a name. -/
def wholeAt (members : List (Text × Json)) (name : Text) : Option Int :=
  (Named.find? members name).bind whole?

theorem wholeAt_insert (members : List (Text × Json)) (name other : Text) (v : Json) :
    wholeAt (Named.insert name v members) other =
      if other = name then v.whole? else wholeAt members other := by
  unfold wholeAt
  rw [Named.find?_insert]
  split <;> rfl

/-- Every member has an equal one of the same name exactly if every number that is
found among the first members is found among the others. -/
theorem agreesMembers_iff {ms ns : List (Text × Json)} (hd : Named.Distinct ms)
    (hms : ∀ m ∈ ms, m.2.IsWhole) (hns : ∀ n ∈ ns, n.2.IsWhole) :
    agreesMembers ms ns ↔ ∀ m ∈ ms, wholeAt ns m.1 = m.2.whole? := by
  induction ms with
  | nil => simp [agreesMembers]
  | cons m ms ih =>
    obtain ⟨hm, hrest⟩ := List.forall_mem_cons.1 hms
    rw [agreesMembers, Bool.and_eq_true, ih hd.tail hrest, List.forall_mem_cons]
    refine and_congr_left fun _ => ?_
    unfold wholeAt
    cases hfound : Named.find? ns m.1 with
    | none =>
      obtain ⟨n, hn⟩ := Option.isSome_iff_exists.1 hm
      simp [hn]
    | some w =>
      have hw : w.IsWhole := hns _ (Named.mem_of_find? hfound)
      have hitem := hm.agrees_iff hw
      simp [hm.areNan_eq_false w, hitem, eq_comm]

/-- Where a number is found among members with whole numbers. -/
theorem isSome_wholeAt {members : List (Text × Json)} (hm : ∀ m ∈ members, m.2.IsWhole)
    (name : Text) : (wholeAt members name).isSome = (Named.find? members name).isSome := by
  unfold wholeAt
  cases hfound : Named.find? members name with
  | none => rfl
  | some v => exact hm _ (Named.mem_of_find? hfound)

/-- Maps of whole numbers agree exactly if they have the same numbers under the same names. -/
theorem agrees_obj_iff {ms ns : List (Text × Json)} (hdm : Named.Distinct ms)
    (hdn : Named.Distinct ns) (hms : ∀ m ∈ ms, m.2.IsWhole) (hns : ∀ n ∈ ns, n.2.IsWhole) :
    (obj ms).agrees (obj ns) ↔ ∀ name, wholeAt ms name = wholeAt ns name := by
  rw [agrees, Bool.and_eq_true, beq_iff_eq, agreesMembers_iff hdm hms hns]
  constructor
  · rintro ⟨hlength, hmembers⟩ name
    cases hfound : Named.find? ms name with
    | some v =>
      have hmember := hmembers _ (Named.mem_of_find? hfound)
      rw [hmember, wholeAt, hfound, Option.bind_some]
    | none =>
      -- Equally many distinct names, so that no other name is left for `ns`.
      have hsubset : ms.map (·.1) ⊆ ns.map (·.1) := by
        intro other hother
        obtain ⟨m, hm, rfl⟩ := List.mem_map.1 hother
        rw [← Named.isSome_find?_iff, ← isSome_wholeAt hns, hmembers m hm]
        exact hms m hm
      have hperm := (List.subperm_of_subset hdm hsubset).perm_of_length_le
        (by simp [hlength])
      have hmissing : Named.find? ns name = none := by
        rw [Named.find?_eq_none_iff, ← hperm.mem_iff]
        exact Named.find?_eq_none_iff.1 hfound
      rw [wholeAt, wholeAt, hfound, hmissing]
  · intro h
    refine ⟨hdm.length_eq hdn fun name => ?_, fun m hm => ?_⟩
    · rw [← isSome_wholeAt hms, ← isSome_wholeAt hns, h]
    · rw [← h, wholeAt, hdm.find?_of_mem hm, Option.bind_some]

/-- Nothing tells two rows of the same whole numbers apart. -/
theorem agreesItems_congr {vs ws : List Json} (hvs : ∀ v ∈ vs, v.IsWhole)
    (hws : ∀ w ∈ ws, w.IsWhole) (h : vs.map whole? = ws.map whole?) (xs : List Json) :
    agreesItems xs vs = agreesItems xs ws := by
  induction xs generalizing vs ws with
  | nil => cases vs <;> cases ws <;> first | rfl | cases h
  | cons x xs ih =>
    cases vs with
    | nil =>
      cases ws with
      | nil => rfl
      | cons w ws => cases h
    | cons v vs =>
      cases ws with
      | nil => cases h
      | cons w ws =>
        obtain ⟨hv, hvs⟩ := List.forall_mem_cons.1 hvs
        obtain ⟨hw, hws⟩ := List.forall_mem_cons.1 hws
        obtain ⟨hitem, hrest⟩ := List.cons.inj h
        rw [agreesItems, agreesItems, hv.areNan_eq_false_right, hw.areNan_eq_false_right,
          hv.agrees_congr hw hitem, ih hvs hws hrest]

/-- Nothing tells two maps apart that have the same whole numbers under the same names. -/
theorem agreesMembers_congr {vs ws : List (Text × Json)} (hvs : ∀ v ∈ vs, v.2.IsWhole)
    (hws : ∀ w ∈ ws, w.2.IsWhole) (h : ∀ name, wholeAt vs name = wholeAt ws name)
    (ms : List (Text × Json)) : agreesMembers ms vs = agreesMembers ms ws := by
  induction ms with
  | nil => rfl
  | cons m ms ih =>
    have hnumber : wholeAt vs m.1 = wholeAt ws m.1 := h m.1
    have hsome : (Named.find? vs m.1).isSome = (Named.find? ws m.1).isSome := by
      rw [← isSome_wholeAt hvs, ← isSome_wholeAt hws, hnumber]
    rw [agreesMembers, agreesMembers, ih]
    cases hv : Named.find? vs m.1 with
    | none =>
      rw [hv, Option.isSome_none, eq_comm, Option.isSome_eq_false_iff, Option.isNone_iff_eq_none]
        at hsome
      rw [hsome]
    | some v =>
      rw [hv, Option.isSome_some, eq_comm, Option.isSome_iff_exists] at hsome
      obtain ⟨w, hw⟩ := hsome
      have hwhole : v.IsWhole := hvs _ (Named.mem_of_find? hv)
      have hwhole' : w.IsWhole := hws _ (Named.mem_of_find? hw)
      rw [wholeAt, wholeAt, hv, hw] at hnumber
      simp only [hw, hwhole.areNan_eq_false_right, hwhole'.areNan_eq_false_right,
        hwhole.agrees_congr hwhole' hnumber]

end Json

namespace HandleKind

/-- A value is one that a read of a handle of this kind may return. -/
def Holds : HandleKind → Json → Prop
  | value, v => v = .null ∨ v.IsWhole
  | list, v => ∃ items, v = .arr items ∧ ∀ x ∈ items, x.IsWhole
  | map, v => ∃ members, v = .obj members ∧ Named.Distinct members ∧ ∀ m ∈ members, m.2.IsWhole

/-- A state agrees with itself. -/
theorem Holds.agrees_self {k : HandleKind} {v : Json} (hv : k.Holds v) : v.agrees v := by
  cases k with
  | value => exact (Json.agrees_iff_whole? hv hv).2 rfl
  | list =>
    obtain ⟨items, rfl, hitems⟩ := hv
    exact (Json.agrees_arr_iff hitems hitems).2 rfl
  | map =>
    obtain ⟨members, rfl, hd, hmembers⟩ := hv
    exact (Json.agrees_obj_iff hd hd hmembers hmembers).2 fun _ => rfl

/-- Nothing tells states apart that agree with each other. -/
theorem Holds.agrees_congr {k : HandleKind} {v w : Json} (hv : k.Holds v) (hw : k.Holds w)
    (h : v.agrees w) (x : Json) : x.agrees v = x.agrees w := by
  cases k with
  | value =>
    have hnumber := (Json.agrees_iff_whole? hv hw).1 h
    rcases hv with rfl | hv <;> rcases hw with rfl | hw
    · rfl
    · rw [Json.IsWhole, ← hnumber] at hw
      cases hw
    · rw [Json.IsWhole, hnumber] at hv
      cases hv
    · exact hv.agrees_congr hw hnumber x
  | list =>
    obtain ⟨items, rfl, hitems⟩ := hv
    obtain ⟨others, rfl, hothers⟩ := hw
    have hnumbers := (Json.agrees_arr_iff hitems hothers).1 h
    cases x with
    | arr xs =>
      rw [Json.agrees, Json.agrees]
      exact Json.agreesItems_congr hitems hothers hnumbers xs
    | _ => simp [Json.agrees, Json.whole?]
  | map =>
    obtain ⟨members, rfl, hd, hmembers⟩ := hv
    obtain ⟨others, rfl, hd', hothers⟩ := hw
    have hlength : members.length = others.length := by
      rw [Json.agrees, Bool.and_eq_true] at h
      exact eq_of_beq h.1
    have hnumbers := (Json.agrees_obj_iff hd hd' hmembers hothers).1 h
    cases x with
    | obj ms =>
      rw [Json.agrees, Json.agrees, hlength,
        Json.agreesMembers_congr hmembers hothers hnumbers ms]
    | _ => simp [Json.agrees, Json.whole?]

end HandleKind

end ExpiryAudit
