import ExpiryAudit.Proofs.JsonReading

/-!
# What is read

Whatever a text holds, the value that is read from it has distinct names in its objects,
no whole number with too many digits, and no more containers in each other than may be
open at a time. So it would be read back from its own text.
-/
namespace ExpiryAudit.Json

/-! ## Numbers -/

theorem digitsValue_lt {ds : List Char} (h : ∀ c ∈ ds, c.isDigit = true) :
    digitsValue ds < 10 ^ ds.length := by
  induction ds using List.reverseRecOn with
  | nil => simp [digitsValue]
  | append_singleton ds c ih =>
    have hds := ih fun d hd => h d (List.mem_append_left _ hd)
    have hdigit := h c (List.mem_append_right _ List.mem_cons_self)
    have hc : digitsValue [c] < 10 := by
      simp only [Char.isDigit, Bool.and_eq_true, decide_eq_true_eq, UInt32.le_iff_toNat_le] at hdigit
      have hcode : c.toNat ≤ 57 := hdigit.2
      have hzero : '0'.toNat = 48 := rfl
      simp only [digitsValue, List.foldl_cons, List.foldl_nil]
      omega
    rw [digitsValue_append, List.length_append, List.length_singleton, Nat.pow_succ 10 ds.length, Nat.pow_one]
    omega

theorem isDigit_wholePart (s : List Char) : ∀ c ∈ (wholePart s).1, c.isDigit = true := by
  unfold wholePart
  split
  · exact List.forall_mem_singleton.2 (by decide)
  · rw [List.span_eq_takeWhile_dropWhile]
    exact fun c hc => List.all_eq_true.1 List.all_takeWhile c hc

theorem isWritable_of_digits {ds : List Char} (h : ∀ c ∈ ds, c.isDigit = true)
    (hlength : ds.length ≤ Text.digitLimit) (negative : Bool) :
    Text.isWritable (if negative then -(digitsValue ds : Int) else digitsValue ds) = true := by
  refine Text.isWritable_of_natAbs_lt ?_ hlength
  have hlt := digitsValue_lt h
  cases negative
  · exact hlt
  · rw [if_pos rfl, Int.natAbs_neg]
    exact hlt

theorem restored_of_unsigned? {negative : Bool} {s rest : List Char} {v : Json}
    (h : unsigned? negative s = some (.ok v, rest)) (room : Nat) : Restored room v := by
  unfold unsigned? at h
  have hdigits := isDigit_wholePart s
  dsimp only at h
  split at h
  · cases h
  split at h <;> split at h
  -- A number with a fraction or an exponent is no whole number.
  · cases h
    exact .float
  · cases h
    exact .float
  · cases h
    exact .float
  · dsimp only at h
    rw [if_neg (by decide)] at h
    split at h
    · cases h
    · next hlength =>
      cases h
      exact .int (isWritable_of_digits hdigits (Nat.le_of_not_lt hlength) negative)

theorem restored_of_number? {s rest : List Char} {v : Json}
    (h : number? s = some (.ok v, rest)) (room : Nat) : Restored room v := by
  unfold number? at h
  split at h
  · exact restored_of_unsigned? h room
  · exact restored_of_unsigned? h room

theorem restored_of_name? {s rest : List Char} {v : Json} (h : name? s = some (v, rest))
    (room : Nat) : Restored room v := by
  obtain ⟨n, hn, hname⟩ := List.exists_of_findSome?_eq_some h
  obtain ⟨after, -, hv⟩ := Option.map_eq_some_iff.1 hname
  obtain ⟨rfl, -⟩ := Prod.mk.inj hv
  simp only [names, List.mem_cons, List.not_mem_nil, or_false] at hn
  rcases hn with rfl | rfl | rfl | rfl | rfl | rfl
  · exact .null
  · exact .bool
  · exact .bool
  · exact .float
  · exact .float
  · exact .float

/-! ## Values -/

/-- What is read with some fuel is restored. -/
structure ReadsShaped (fuel : Nat) : Prop where
  value : ∀ {room s v rest}, readValue fuel room s = .ok (v, rest) → Restored room v
  items : ∀ {room done s v rest}, (∀ d ∈ done, Restored room d) →
    readItems fuel room done s = .ok (v, rest) → Restored (room + 1) v
  members : ∀ {room done s v rest}, Named.Distinct done → (∀ m ∈ done, Restored room m.2) →
    readMembers fuel room done s = .ok (v, rest) → Restored (room + 1) v

namespace ReadsShaped

variable {fuel room : Nat} {s rest : List Char} {v : Json}

theorem value_succ (h : ReadsShaped fuel) (hv : readValue (fuel + 1) room s = .ok (v, rest)) :
    Restored room v := by
  unfold readValue at hv
  split at hv
  · next text =>
    cases hs : readString ('"' :: text).length text with
    | error e => rw [hs] at hv; cases hv
    | ok r =>
      rw [hs] at hv
      cases hv
      exact .str
  · cases room with
    | zero => cases hv
    | succ room =>
      rw [if_neg (Nat.succ_ne_zero room)] at hv
      split at hv
      · cases hv
        exact .obj List.nodup_nil (List.forall_mem_nil _)
      · have hnil : Named.Distinct ([] : List (Text × Json)) := List.nodup_nil
        exact h.members hnil (List.forall_mem_nil _) hv
  · cases room with
    | zero => cases hv
    | succ room =>
      rw [if_neg (Nat.succ_ne_zero room)] at hv
      split at hv
      · cases hv
        exact .arr (List.forall_mem_nil _)
      · exact h.items (List.forall_mem_nil _) hv
  · split at hv
    · next r hname =>
      cases hv
      exact restored_of_name? hname room
    · split at hv
      · next found after hnumber =>
        cases found with
        | error e => cases hv
        | ok w =>
          cases hv
          exact restored_of_number? hnumber room
      · cases hv

theorem items_succ (h : ReadsShaped fuel) {done : List Json} (hdone : ∀ d ∈ done, Restored room d)
    (hv : readItems (fuel + 1) room done s = .ok (v, rest)) : Restored (room + 1) v := by
  unfold readItems at hv
  cases hitem : readValue fuel room s with
  | error e => rw [hitem] at hv; cases hv
  | ok r =>
    obtain ⟨item, after⟩ := r
    have hall : ∀ d ∈ item :: done, Restored room d :=
      List.forall_mem_cons.2 ⟨h.value hitem, hdone⟩
    rw [hitem] at hv
    simp only [bind, Except.bind] at hv
    split at hv
    · cases hv
      exact .arr fun d hd => hall d (List.mem_reverse.1 hd)
    · exact h.items hall hv
    · cases hv

theorem members_succ (h : ReadsShaped fuel) {done : List (Text × Json)}
    (hdistinct : Named.Distinct done) (hdone : ∀ m ∈ done, Restored room m.2)
    (hv : readMembers (fuel + 1) room done s = .ok (v, rest)) : Restored (room + 1) v := by
  unfold readMembers at hv
  split at hv
  · next text =>
    cases hname : readString ('"' :: text).length text with
    | error e => rw [hname] at hv; cases hv
    | ok r =>
      obtain ⟨name, after⟩ := r
      rw [hname] at hv
      simp only [bind, Except.bind] at hv
      split at hv
      · next after' _ =>
        cases hvalue : readValue fuel room (skipSpace after') with
        | error e => rw [hvalue] at hv; cases hv
        | ok r =>
          obtain ⟨value, after''⟩ := r
          have hinsert := hdistinct.insert name value
          have hall : ∀ m ∈ Named.insert name value done, Restored room m.2 := by
            intro m hm
            rcases Named.mem_insert hm with rfl | hm
            · exact h.value hvalue
            · exact hdone m hm
          rw [hvalue] at hv
          dsimp only at hv
          split at hv
          · cases hv
            exact .obj hinsert hall
          · exact h.members hinsert hall hv
          · cases hv
      · cases hv
  · cases hv

end ReadsShaped

theorem readsShaped (fuel : Nat) : ReadsShaped fuel := by
  induction fuel with
  | zero =>
    refine ⟨fun h => ?_, fun _ h => ?_, fun _ _ h => ?_⟩
    · rw [readValue] at h
      cases h
    · rw [readItems] at h
      cases h
    · rw [readMembers] at h
      cases h
  | succ fuel ih => exact ⟨ih.value_succ, ih.items_succ, ih.members_succ⟩

/-- A value that is read from a text would be read back from its own text. -/
theorem restored_of_parse {s : List Char} {v : Json} (h : parse s = .ok v) :
    Restored depthLimit v := by
  have hall : ∀ {s v}, readAll s = .ok v → Restored depthLimit v := by
    intro s v h
    unfold readAll at h
    cases hvalue : readValue (2 * s.length + 2) depthLimit (skipSpace s) with
    | error e => rw [hvalue] at h; cases h
    | ok r =>
      obtain ⟨w, after⟩ := r
      rw [hvalue] at h
      simp only [bind, Except.bind] at h
      split at h
      · cases h
        exact (readsShaped _).value hvalue
      · cases h
  unfold parse at h
  split at h
  · cases h
  · cases hread : readAll s with
    | error e => rw [hread] at h; cases h
    | ok w =>
      rw [hread] at h
      cases h
      exact hall hread

end ExpiryAudit.Json
