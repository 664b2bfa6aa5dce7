import ExpiryAudit.Proofs.Act
import ExpiryAudit.Verification

/-!
# Updates that look the same

A payload that has been saved and restored need not be the payload that was received: a
pair may come back as a tuple. What an audit looks at is the written form, the map entry
and the window, and these decide everything it does with an update.
-/
namespace ExpiryAudit

/-- What an audit looks at. -/
def Update.looks (u : Update) : Json × Except Fault (Text × Int) × Window :=
  (u.payload.json, u.payload.mapEntry, u.window)

/-- Updates that look the same one by one. -/
def LookAlike (updates others : List Update) : Prop :=
  updates.map Update.looks = others.map Update.looks

namespace LookAlike

variable {updates others : List Update}

theorem append {us vs : List Update} (h : LookAlike updates others) (h' : LookAlike us vs) :
    LookAlike (updates ++ us) (others ++ vs) := by
  unfold LookAlike at h h' ⊢
  rw [List.map_append, List.map_append, h, h']

theorem windows_eq (h : LookAlike updates others) : windows updates = windows others := by
  have hmap : ∀ us : List Update, windows us = (us.map Update.looks).map (·.2.2) := fun us => by
    rw [List.map_map]
    rfl
  rw [hmap, hmap, h]

end LookAlike

/-! ## Expectations -/

/-- Whether an item is kept may be decided by what is made of it. -/
theorem Lifetime.keep_map {α β : Type} (test : β → Except Fault Bool) (f : α → β) (items : List α) :
    keep test (items.map f) = (keep (fun x => test (f x)) items).map (List.map f) := by
  induction items with
  | nil => rfl
  | cons x rest ih =>
    rw [List.map_cons, keep, keep, ih]
    cases test (f x) with
    | error e => rfl
    | ok kept =>
      cases keep (fun x => test (f x)) rest with
      | error e => rfl
      | ok others => cases kept <;> rfl

namespace Rule

variable {r : Rule} {updates others : List Update}

theorem expectedValue_eq (h : LookAlike updates others) (now : Int) :
    r.expectedValue updates now = r.expectedValue others now := by
  have hlast := congrArg List.getLast? h
  rw [List.getLast?_map, List.getLast?_map] at hlast
  unfold expectedValue
  cases hu : updates.getLast? with
  | none =>
    rw [hu] at hlast
    rw [Option.map_eq_none_iff.1 hlast.symm]
  | some u =>
    rw [hu] at hlast
    obtain ⟨v, hv, hlooks⟩ := Option.map_eq_some_iff.1 hlast.symm
    obtain ⟨hjson, hrest⟩ := Prod.mk.inj hlooks
    rw [hv]
    simp only [hjson, (Prod.mk.inj hrest).2]

theorem expectedList_eq (h : LookAlike updates others) (now : Int) :
    r.expectedList updates now = r.expectedList others now := by
  have hkept : ∀ us : List Update, r.expectedList us now =
      (Lifetime.keep (fun x => r.lasts x.2.2 now) (us.map Update.looks)).map
        fun kept => .arr (kept.map (·.1)) := by
    intro us
    rw [Lifetime.keep_map, expectedList]
    simp only [Update.looks]
    cases Lifetime.keep (fun u => r.lasts u.window now) us with
    | error e => rfl
    | ok kept =>
      have hshown : kept.map (fun u => u.payload.json) = (kept.map Update.looks).map (·.1) := by
        rw [List.map_map]
        rfl
      exact congrArg (fun items => Except.ok (Json.arr items)) hshown
  rw [hkept, hkept, h]

theorem latestEntries_eq (h : LookAlike updates others) :
    latestEntries updates = latestEntries others := by
  unfold latestEntries
  rw [mapM_eq_of_map_eq h fun u v hlooks => ?_]
  obtain ⟨-, hrest⟩ := Prod.mk.inj hlooks
  obtain ⟨hentry, hwindow⟩ := Prod.mk.inj hrest
  rw [hentry, hwindow]

theorem addTo_eq (sum : Json) {p q : Payload} (h : p.json = q.json) : addTo sum p = addTo sum q := by
  unfold addTo
  split <;> rw [h]

theorem runningSum_eq (h : LookAlike updates others) (sum : Json) (last : Option Window) :
    r.runningSum sum last updates = r.runningSum sum last others := by
  unfold LookAlike at h
  induction updates generalizing others sum last with
  | nil =>
    cases others with
    | nil => rfl
    | cons v others => cases h
  | cons u updates ih =>
    cases others with
    | nil => cases h
    | cons v others =>
      obtain ⟨hlooks, hrest⟩ := List.cons.inj h
      obtain ⟨hjson, hlooks⟩ := Prod.mk.inj hlooks
      have hwindow : u.window = v.window := (Prod.mk.inj hlooks).2
      simp only [runningSum, hwindow, addTo_eq _ hjson, ih hrest]

/-- What a store has to show depends on nothing else of the updates. -/
theorem expected_eq (h : LookAlike updates others) (now : Int) :
    r.expected updates now = r.expected others now := by
  unfold expected
  cases r.kind with
  | value => exact expectedValue_eq h now
  | list => exact expectedList_eq h now
  | map => simp only [expectedMap, latestEntries_eq h]
  | reducing => simp only [expectedSum, runningSum_eq h]

theorem verify_eq (h : LookAlike updates others) (o : Observation) :
    r.verify updates o = r.verify others o := by
  have hafter : ∀ u, r.expected (updates ++ [u]) o.after = r.expected (others ++ [u]) o.after :=
    fun u => expected_eq (h.append rfl) o.after
  unfold verify
  simp only [expected_eq h, hafter]

end Rule

/-! ## Written forms -/

/-- The encoder writes payloads that look the same in the same way. -/
def Encoder.Faithful (encode : Encoder) : Prop :=
  ∀ p q : Payload, p.json = q.json → p.mapEntry = q.mapEntry → encode p = encode q

theorem Encoder.faithful_plain : Encoder.plain.Faithful := fun _ _ hjson _ => congrArg Except.ok hjson

theorem RuleKind.faithful_encode (k : RuleKind) : Encoder.Faithful k.encode := by
  intro p q hjson hentry
  cases k with
  | map => simp only [encode, hentry]
  | value | list | reducing => exact congrArg Except.ok hjson

theorem faithful_encoderOf (kinds : List RuleKind) (name : Text) :
    (encoderOf kinds name).Faithful := by
  unfold encoderOf
  split
  · exact RuleKind.faithful_encode _
  · exact Encoder.faithful_plain

theorem Update.toJson_eq {encode : Encoder} (hencode : encode.Faithful) {u v : Update}
    (h : u.looks = v.looks) : u.toJson encode = v.toJson encode := by
  obtain ⟨hjson, hrest⟩ := Prod.mk.inj h
  obtain ⟨hentry, hwindow⟩ := Prod.mk.inj hrest
  rw [toJson, toJson, hencode _ _ hjson hentry, hwindow]

/-- The diagnostic line depends on nothing else of the updates. -/
theorem Verification.line_eq {key : Text} {r : Rule} {previous others : List Update}
    (h : LookAlike previous others) (o : Observation) :
    Verification.line ⟨key, r, previous, o⟩ = Verification.line ⟨key, r, others, o⟩ := by
  have hwritten := mapM_eq_of_map_eq h fun _ _ => Update.toJson_eq r.kind.faithful_encode
  unfold line written
  simp only [hwritten]

/-! ## Histories -/

/-- Histories with updates that look the same in every slot. -/
def History.Alike (h k : History) : Prop := ∀ s, LookAlike (h.load s) (k.load s)

namespace History.Alike

variable {h k l : History}

theorem refl (h : History) : h.Alike h := fun _ => rfl

theorem trans (e : h.Alike k) (f : k.Alike l) : h.Alike l := fun s => (e s).trans (f s)

theorem append (e : h.Alike k) (s : Slot) (u : Update) : (h.append s u).Alike (k.append s u) := by
  intro r
  rw [load_append, load_append]
  split
  · exact (e s).append rfl
  · exact e r

theorem clear (e : h.Alike k) (s : Slot) : (h.clear s).Alike (k.clear s) := by
  intro r
  rw [load_clear, load_clear]
  split
  · rfl
  · exact e r

end History.Alike
end ExpiryAudit
