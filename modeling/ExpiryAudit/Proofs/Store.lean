import ExpiryAudit.Host.Reference
import ExpiryAudit.Proofs.World

/-!
# Reference stores at work

Reads of a reference store are of the kind of their handle. When lifetimes are whole
numbers, a read never fails and shows the entries that are still alive; what it drops
would never be shown again.
-/
namespace ExpiryAudit

/-- What is kept is a part of the items, in their order. -/
theorem Lifetime.sublist_of_keep_eq_ok {α : Type} {test : α → Except Fault Bool}
    {items kept : List α} (h : keep test items = .ok kept) : kept.Sublist items := by
  induction items generalizing kept with
  | nil =>
    cases h
    exact List.Sublist.slnil
  | cons x rest ih =>
    obtain ⟨stays, -, h⟩ := eq_ok_of_bind_eq_ok h
    obtain ⟨others, hothers, h⟩ := eq_ok_of_bind_eq_ok h
    cases h
    cases stays with
    | false => exact (ih hothers).cons x
    | true => exact (ih hothers).cons_cons x

namespace Tables

/-- Single values are whole numbers or nothing, and entries of a map have distinct names. -/
structure Typed (t : Tables) : Prop where
  values : ∀ s v written, t.values.get? s = some (v, written) → HandleKind.value.Holds v
  maps : ∀ s entries, t.maps.get? s = some entries → Named.Distinct entries

theorem typed_empty : empty.Typed where
  values := fun _ _ _ h => nomatch h
  maps := fun _ _ h => nomatch h

variable {t : Tables}

/-- The entries of a map have distinct names, whether it is there or not. -/
theorem Typed.distinct (ht : t.Typed) (s : Slot) :
    Named.Distinct ((t.maps.get? s).getD []) := by
  cases h : t.maps.get? s with
  | none => exact List.nodup_nil
  | some entries => exact ht.maps s entries h

theorem Typed.setMap (ht : t.Typed) (s : Slot) {entries : List (Text × (Int × Int))}
    (hd : Named.Distinct entries) : Typed { t with maps := t.maps.set s entries } where
  values := ht.values
  maps := by
    intro r found hfound
    rw [SlotTable.get?_set] at hfound
    split at hfound
    · exact Option.some.inj hfound ▸ hd
    · exact ht.maps r found hfound

theorem Typed.eraseValue (ht : t.Typed) (s : Slot) :
    Typed { t with values := t.values.erase s } where
  values := by
    intro r v written hfound
    rw [SlotTable.get?_erase] at hfound
    split at hfound
    · cases hfound
    · exact ht.values r v written hfound
  maps := ht.maps

/-- A read gives a value of the kind of its handle. -/
theorem Typed.readAt {b : Behaviour} {h : Handle} {now : Int} {v : Json} {t' : Tables}
    (ht : t.Typed) (hread : t.readAt b h now = .ok (v, t')) : h.kind.Holds v ∧ t'.Typed := by
  unfold Tables.readAt at hread
  cases hkind : h.kind with
  | value =>
    rw [hkind] at hread
    dsimp only at hread
    split at hread
    · cases hread
      exact ⟨.inl rfl, ht⟩
    · next x written hfound =>
      obtain ⟨isGone, -, hread⟩ := eq_ok_of_bind_eq_ok hread
      cases isGone with
      | false =>
        cases hread
        exact ⟨ht.values _ _ _ hfound, ht⟩
      | true =>
        cases hread
        exact ⟨.inl rfl, ht.eraseValue h.slot⟩
  | list =>
    rw [hkind] at hread
    obtain ⟨kept, -, hread⟩ := eq_ok_of_bind_eq_ok hread
    cases hread
    refine ⟨⟨_, rfl, fun x hx => ?_⟩, ⟨ht.values, ht.maps⟩⟩
    obtain ⟨e, -, rfl⟩ := List.mem_map.1 hx
    exact Json.isWhole_int e.1
  | map =>
    rw [hkind] at hread
    obtain ⟨kept, hkept, hread⟩ := eq_ok_of_bind_eq_ok hread
    cases hread
    have hsub := Lifetime.sublist_of_keep_eq_ok hkept
    have hd : Named.Distinct kept := (hsub.map _).nodup (ht.distinct h.slot)
    refine ⟨⟨_, rfl, hd.map fun e : Int × Int => Json.int e.1, fun m hm => ?_⟩, ht.setMap _ hd⟩
    obtain ⟨e, -, rfl⟩ := List.mem_map.1 hm
    exact Json.isWhole_int e.2.1

theorem Typed.writeAt (ht : t.Typed) (h : Handle) (now : Int) {c : Change} (hc : c.IsWhole) :
    (t.writeAt h now c).Typed := by
  cases c with
  | replace v =>
    refine ⟨fun r x written hfound => ?_, ht.maps⟩
    rw [Tables.writeAt, SlotTable.get?_set] at hfound
    split at hfound
    · cases hfound
      exact .inr hc
    · exact ht.values r x written hfound
  | append n => exact ⟨ht.values, ht.maps⟩
  | put name n => exact ht.setMap h.slot ((ht.distinct h.slot).insert name (n, now))

theorem Typed.clear (ht : t.Typed) (h : Handle) : (t.clear h).Typed := by
  unfold Tables.clear
  cases h.kind with
  | value => exact ht.eraseValue h.slot
  | list => exact ⟨ht.values, ht.maps⟩
  | map =>
    refine ⟨ht.values, fun r entries hfound => ?_⟩
    rw [SlotTable.get?_erase] at hfound
    split at hfound
    · cases hfound
    · exact ht.maps r entries hfound

end Tables

namespace Behaviour

variable {κ : Type}

/-- A store and a verifier that each read a clock over one state. -/
def onClocks (b : Behaviour) (hostClock clock : Act κ Int) : Environment (κ × Tables) where
  host := b.host hostClock
  now := clock.within (·.1) fun c s => (c, s.2)

variable {b : Behaviour} {hostClock clock : Act κ Int} {h : Handle}

/-- A read asks the tables at the instant that the clock reads. -/
theorem run_read {s : κ × Tables} {now : Int} {c : κ} (hclock : hostClock.run s.1 = (.ok now, c)) :
    ((b.host hostClock).read h).run s = match s.2.readAt b h now with
      | .ok (v, tables) => (.ok v, c, tables)
      | .error f => (.error f, c, s.2) := by
  have hnow : (hostClock.within (·.1) fun c (s : κ × Tables) => (c, s.2)).run s =
      (.ok now, c, s.2) := by
    rw [Act.run_within, hclock]
  exact Act.run_bind_ok hnow

/-- A write that is not forgotten is stamped with the instant that the clock reads. -/
theorem run_write {c : Change} (hc : b.forgets c = false) {s : κ × Tables} {now : Int} {k : κ}
    (hclock : hostClock.run s.1 = (.ok now, k)) :
    ((b.host hostClock).write h c).run s = (.ok (), k, s.2.writeAt h now c) := by
  have hnow : (hostClock.within (·.1) fun c (s : κ × Tables) => (c, s.2)).run s =
      (.ok now, k, s.2) := by
    rw [Act.run_within, hclock]
  simp only [host, hc]
  exact Act.run_bind_ok hnow

/-- A read that returns has read the clock once. -/
theorem run_read_ok {s s' : κ × Tables} {v : Json}
    (hread : ((b.host hostClock).read h).run s = (.ok v, s')) :
    ∃ now, hostClock.run s.1 = (.ok now, s'.1) ∧ s.2.readAt b h now = .ok (v, s'.2) := by
  obtain ⟨now, s₁, hnow, hread⟩ := Act.run_bind_eq_ok hread
  obtain ⟨c, hclock, rfl⟩ := Act.run_within_eq_ok hnow
  simp only [Act.run] at hread
  split at hread
  · next x tables htables =>
    cases hread
    exact ⟨now, hclock, htables⟩
  · cases hread

/-- A write that returns and is not forgotten has read the clock once. -/
theorem run_write_ok {c : Change} (hc : b.forgets c = false) {s s' : κ × Tables}
    (hwrite : ((b.host hostClock).write h c).run s = (.ok (), s')) :
    ∃ now, hostClock.run s.1 = (.ok now, s'.1) ∧ s'.2 = s.2.writeAt h now c := by
  have hkept : (b.host hostClock).write h c = (do
      let now ← hostClock.within (·.1) fun c s => (c, s.2)
      Act.modify fun s => (s.1, s.2.writeAt h now c)) := by
    simp only [host, hc]
    rfl
  rw [hkept] at hwrite
  obtain ⟨now, s₁, hnow, hwrite⟩ := Act.run_bind_eq_ok hwrite
  obtain ⟨k, hclock, rfl⟩ := Act.run_within_eq_ok hnow
  cases hwrite
  exact ⟨now, hclock, rfl⟩

section Keeps

variable {Q : Tables → Prop}

/-- The property is one of what the store holds. -/
abbrev OfTables (Q : Tables → Prop) (s : κ × Tables) : Prop := Q s.2

theorem keeps_clock : Act.Keeps (OfTables Q) (clock.within (·.1) fun c (s : κ × Tables) => (c, s.2)) :=
  Act.Keeps.within fun _ _ hs => hs

theorem keeps_read
    (hQ : ∀ t now v t', Q t → t.readAt b h now = .ok (v, t') → Q t') :
    Act.Keeps (OfTables Q) ((b.host hostClock).read h) := by
  refine Act.Keeps.bind keeps_clock fun _ now _ _ _ => fun s hs => ?_
  simp only [Act.run]
  split
  · next v tables htables => exact hQ _ _ _ _ hs htables
  · exact hs

theorem keeps_write {c : Change}
    (hQ : b.forgets c = false → ∀ t now, Q t → Q (t.writeAt h now c)) :
    Act.Keeps (OfTables Q) ((b.host hostClock).write h c) := by
  simp only [host]
  split
  · exact Act.Keeps.pure ()
  · next hc =>
    refine Act.Keeps.bind keeps_clock fun _ now _ _ _ => Act.Keeps.modify fun s hs => ?_
    exact hQ (Bool.eq_false_iff.2 hc) s.2 now hs

theorem keeps_acquire : Act.Keeps (OfTables Q) ((b.host hostClock).acquire h) := by
  simp only [host]
  split
  · exact fun _ hs => hs
  · exact Act.Keeps.pure ()

/-- Whatever the clocks do, a store comes only to tables that its own acts make. -/
theorem of_comes {moves : κ × Tables → κ × Tables → Prop} {w₀ w : κ × Tables}
    (hcomes : (b.onClocks hostClock clock).Comes moves w₀ w) (h₀ : Q w₀.2)
    (hread : ∀ h t now v t', Q t → t.readAt b h now = .ok (v, t') → Q t')
    (hwrite : ∀ h c, c.IsWhole → b.forgets c = false → ∀ t now, Q t → Q (t.writeAt h now c))
    (hclear : ∀ h t, Q t → Q (t.clear h)) (hmoves : ∀ w w', moves w w' → w'.2 = w.2) : Q w.2 := by
  induction hcomes with
  | start => exact h₀
  | @now w _ ih => exact keeps_clock w ih
  | @acquire w h _ ih => exact keeps_acquire w ih
  | @read w h _ ih => exact keeps_read (hread h) w ih
  | @write w h c whole _ ih => exact keeps_write (hwrite h c whole) w ih
  | @clear w h _ ih => exact hclear h _ ih
  | move hmove _ ih => exact hmoves _ _ hmove ▸ ih

end Keeps

/-- What a reference store holds stays of the right kinds, so that all its reads are. -/
theorem typed_onClocks (b : Behaviour) (hostClock clock : Act κ Int) (c : κ)
    {moves : κ × Tables → κ × Tables → Prop} (hmoves : ∀ w w', moves w w' → w'.2 = w.2) :
    (b.onClocks hostClock clock).Typed moves (c, .empty) := by
  intro h w w' v hcomes hread
  have htyped : w.2.Typed := of_comes hcomes Tables.typed_empty
    (fun _ _ _ _ _ ht hread => (ht.readAt hread).2)
    (fun h _ hc _ _ now ht => ht.writeAt h now hc) (fun h _ ht => ht.clear h) hmoves
  obtain ⟨now, -, hread⟩ := run_read_ok hread
  exact (htyped.readAt hread).1

end Behaviour
end ExpiryAudit
