import ExpiryAudit.Proofs.Store

/-!
# Regions

Tables and histories that agree on a region hold the same in all of its slots. What a store
does to a slot depends on what this slot holds and on the instant, so stores that agree on a
region of the slot give the same answers and agree on it afterwards. On any other region a
store changes nothing.
-/
namespace ExpiryAudit

variable {P : Slot → Prop}

/-- Tables hold the same in a region. -/
def SlotTable.AgreeOn {α : Type} (P : Slot → Prop) (t u : SlotTable α) : Prop :=
  ∀ s, P s → t.get? s = u.get? s

namespace SlotTable.AgreeOn

variable {α : Type} {t u : SlotTable α} {s : Slot}

theorem set (h : t.AgreeOn P u) (s : Slot) (v : α) : (t.set s v).AgreeOn P (u.set s v) := by
  intro r hr
  rw [get?_set, get?_set, h r hr]

theorem erase (h : t.AgreeOn P u) (s : Slot) : (t.erase s).AgreeOn P (u.erase s) := by
  intro r hr
  rw [get?_erase, get?_erase, h r hr]

theorem set_outside (h : t.AgreeOn P u) (hs : ¬P s) (v : α) : (t.set s v).AgreeOn P u := by
  intro r hr
  have hne : r ≠ s := fun e => hs (e ▸ hr)
  rw [get?_set, if_neg hne, h r hr]

theorem erase_outside (h : t.AgreeOn P u) (hs : ¬P s) : (t.erase s).AgreeOn P u := by
  intro r hr
  have hne : r ≠ s := fun e => hs (e ▸ hr)
  rw [get?_erase, if_neg hne, h r hr]

end SlotTable.AgreeOn

/-- Histories hold the same updates in a region. -/
def History.AgreeOn (P : Slot → Prop) (h k : History) : Prop := ∀ s, P s → h.load s = k.load s

namespace History.AgreeOn

variable {h k : History} {s : Slot}

theorem append (hk : h.AgreeOn P k) (hs : P s) (u : Update) :
    (h.append s u).AgreeOn P (k.append s u) := by
  intro r hr
  rw [load_append, load_append, hk r hr, hk s hs]

theorem clear (hk : h.AgreeOn P k) (s : Slot) : (h.clear s).AgreeOn P (k.clear s) := by
  intro r hr
  rw [load_clear, load_clear, hk r hr]

theorem append_outside (hk : h.AgreeOn P k) (hs : ¬P s) (u : Update) :
    (h.append s u).AgreeOn P k := by
  intro r hr
  have hne : r ≠ s := fun e => hs (e ▸ hr)
  rw [load_append, if_neg hne, hk r hr]

theorem clear_outside (hk : h.AgreeOn P k) (hs : ¬P s) : (h.clear s).AgreeOn P k := by
  intro r hr
  have hne : r ≠ s := fun e => hs (e ▸ hr)
  rw [load_clear, if_neg hne, hk r hr]

end History.AgreeOn

namespace Tables

/-- Stores hold the same in a region. -/
structure AgreeOn (P : Slot → Prop) (t u : Tables) : Prop where
  values : t.values.AgreeOn P u.values
  lists : t.lists.AgreeOn P u.lists
  maps : t.maps.AgreeOn P u.maps

theorem AgreeOn.refl (t : Tables) : t.AgreeOn P t := ⟨fun _ _ => rfl, fun _ _ => rfl, fun _ _ => rfl⟩

/-- What agrees with the same agrees. -/
theorem AgreeOn.of_common {t u v : Tables} (ht : t.AgreeOn P v) (hu : u.AgreeOn P v) :
    t.AgreeOn P u where
  values := fun s hs => (ht.values s hs).trans (hu.values s hs).symm
  lists := fun s hs => (ht.lists s hs).trans (hu.lists s hs).symm
  maps := fun s hs => (ht.maps s hs).trans (hu.maps s hs).symm

/-- Stores are equal if every slot is in some region on which they agree. -/
theorem eq_of_agreeOn {t u : Tables} (h : ∀ s, ∃ P : Slot → Prop, P s ∧ t.AgreeOn P u) : t = u := by
  have hvalues : t.values = u.values := SlotTable.ext_get? fun s => by
    obtain ⟨P, hs, htu⟩ := h s
    exact htu.values s hs
  have hlists : t.lists = u.lists := SlotTable.ext_get? fun s => by
    obtain ⟨P, hs, htu⟩ := h s
    exact htu.lists s hs
  have hmaps : t.maps = u.maps := SlotTable.ext_get? fun s => by
    obtain ⟨P, hs, htu⟩ := h s
    exact htu.maps s hs
  cases t; cases u
  cases hvalues; cases hlists; cases hmaps
  rfl

namespace AgreeOn

variable {t u t' : Tables} {b : Behaviour} {h : Handle} {now : Int} {v : Json}

/-! ## The region of the slot -/

/-- A read gives one answer wherever the slot holds the same. -/
theorem readAt (htu : t.AgreeOn P u) (b : Behaviour) (hh : P h.slot) (now : Int) :
    (t.readAt b h now).map (·.1) = (u.readAt b h now).map (·.1) ∧
      ∀ v t' v' u', t.readAt b h now = .ok (v, t') → u.readAt b h now = .ok (v', u') →
        t'.AgreeOn P u' := by
  unfold Tables.readAt
  cases h.kind with
  | value =>
    dsimp only
    rw [← htu.values _ hh]
    cases t.values.get? h.slot with
    | none =>
      refine ⟨rfl, ?_⟩
      rintro v t' v' u' ⟨⟩ ⟨⟩
      exact htu
    | some e =>
      dsimp only
      cases b.gone h now e.2 with
      | error f => exact ⟨rfl, fun _ _ _ _ ht => nomatch ht⟩
      | ok isGone =>
        cases isGone with
        | false =>
          refine ⟨rfl, ?_⟩
          rintro v t' v' u' ⟨⟩ ⟨⟩
          exact htu
        | true =>
          refine ⟨rfl, ?_⟩
          rintro v t' v' u' ⟨⟩ ⟨⟩
          exact ⟨htu.values.erase _, htu.lists, htu.maps⟩
  | list =>
    dsimp only
    rw [← htu.lists _ hh]
    cases Lifetime.keep (fun e => b.alive h now e.2) ((t.lists.get? h.slot).getD []) with
    | error f => exact ⟨rfl, fun _ _ _ _ ht => nomatch ht⟩
    | ok kept =>
      refine ⟨rfl, ?_⟩
      rintro v t' v' u' ⟨⟩ ⟨⟩
      exact ⟨htu.values, htu.lists.set _ _, htu.maps⟩
  | map =>
    dsimp only
    rw [← htu.maps _ hh]
    cases Lifetime.keep (fun e => b.alive h now e.2.2) ((t.maps.get? h.slot).getD []) with
    | error f => exact ⟨rfl, fun _ _ _ _ ht => nomatch ht⟩
    | ok kept =>
      refine ⟨rfl, ?_⟩
      rintro v t' v' u' ⟨⟩ ⟨⟩
      exact ⟨htu.values, htu.lists, htu.maps.set _ _⟩

theorem writeAt (htu : t.AgreeOn P u) (hh : P h.slot) (now : Int) (c : Change) :
    (t.writeAt h now c).AgreeOn P (u.writeAt h now c) := by
  cases c with
  | replace v => exact ⟨htu.values.set _ _, htu.lists, htu.maps⟩
  | append n =>
    refine ⟨htu.values, ?_, htu.maps⟩
    rw [Tables.writeAt, Tables.writeAt, htu.lists _ hh]
    exact htu.lists.set _ _
  | put name n =>
    refine ⟨htu.values, htu.lists, ?_⟩
    rw [Tables.writeAt, Tables.writeAt, htu.maps _ hh]
    exact htu.maps.set _ _

theorem clear (htu : t.AgreeOn P u) (h : Handle) : (t.clear h).AgreeOn P (u.clear h) := by
  unfold Tables.clear
  cases h.kind with
  | value => exact ⟨htu.values.erase _, htu.lists, htu.maps⟩
  | list => exact ⟨htu.values, htu.lists.erase _, htu.maps⟩
  | map => exact ⟨htu.values, htu.lists, htu.maps.erase _⟩

/-! ## Other regions -/

theorem readAt_outside (htu : t.AgreeOn P u) (hh : ¬P h.slot)
    (hread : t.readAt b h now = .ok (v, t')) : t'.AgreeOn P u := by
  unfold Tables.readAt at hread
  cases hkind : h.kind with
  | value =>
    rw [hkind] at hread
    dsimp only at hread
    split at hread
    · cases hread
      exact htu
    · obtain ⟨isGone, -, hread⟩ := eq_ok_of_bind_eq_ok hread
      cases isGone with
      | false =>
        cases hread
        exact htu
      | true =>
        cases hread
        exact ⟨htu.values.erase_outside hh, htu.lists, htu.maps⟩
  | list =>
    rw [hkind] at hread
    obtain ⟨kept, -, hread⟩ := eq_ok_of_bind_eq_ok hread
    cases hread
    exact ⟨htu.values, htu.lists.set_outside hh _, htu.maps⟩
  | map =>
    rw [hkind] at hread
    obtain ⟨kept, -, hread⟩ := eq_ok_of_bind_eq_ok hread
    cases hread
    exact ⟨htu.values, htu.lists, htu.maps.set_outside hh _⟩

theorem writeAt_outside (htu : t.AgreeOn P u) (hh : ¬P h.slot) (now : Int) (c : Change) :
    (t.writeAt h now c).AgreeOn P u := by
  cases c with
  | replace v => exact ⟨htu.values.set_outside hh _, htu.lists, htu.maps⟩
  | append n => exact ⟨htu.values, htu.lists.set_outside hh _, htu.maps⟩
  | put name n => exact ⟨htu.values, htu.lists, htu.maps.set_outside hh _⟩

theorem clear_outside (htu : t.AgreeOn P u) (hh : ¬P h.slot) : (t.clear h).AgreeOn P u := by
  unfold Tables.clear
  cases h.kind with
  | value => exact ⟨htu.values.erase_outside hh, htu.lists, htu.maps⟩
  | list => exact ⟨htu.values, htu.lists.erase_outside hh, htu.maps⟩
  | map => exact ⟨htu.values, htu.lists, htu.maps.erase_outside hh⟩

end AgreeOn
end Tables

/-! ## Acts of a store -/

namespace Behaviour

variable {κ : Type} {b : Behaviour} {hostClock clock : Act κ Int} {h : Handle}

/-- The clocks are in one state, and the stores hold the same in a region. -/
structure Alike (P : Slot → Prop) (w v : κ × Tables) : Prop where
  clock : w.1 = v.1
  tables : w.2.AgreeOn P v.2

theorem respects_clock :
    Act.Respects (Alike P) (Alike P) (clock.within (·.1) fun c (w : κ × Tables) => (c, w.2)) := by
  rintro ⟨c, t⟩ ⟨c', u⟩ ⟨hc, htu⟩
  cases hc
  exact ⟨rfl, rfl, htu⟩

theorem respects_acquire : Act.Respects (Alike P) (Alike P) ((b.host hostClock).acquire h) := by
  simp only [host]
  split
  · exact fun _ _ hwv => ⟨rfl, hwv⟩
  · exact Act.Respects.pure ()

theorem respects_read (hh : P h.slot) :
    Act.Respects (Alike P) (Alike P) ((b.host hostClock).read h) := by
  refine Act.Respects.bind respects_clock (fun now => ?_) fun _ _ hwv => hwv
  rintro ⟨c, t⟩ ⟨c', u⟩ ⟨hc, htu⟩
  cases hc
  obtain ⟨hanswer, hleft⟩ := htu.readAt b hh now
  simp only [Act.run]
  cases hread : t.readAt b h now with
  | error f =>
    cases hread' : u.readAt b h now with
    | error f' =>
      rw [hread, hread'] at hanswer
      cases hanswer
      exact ⟨rfl, rfl, htu⟩
    | ok y =>
      rw [hread, hread'] at hanswer
      cases hanswer
  | ok x =>
    cases hread' : u.readAt b h now with
    | error f' =>
      rw [hread, hread'] at hanswer
      cases hanswer
    | ok y =>
      rw [hread, hread'] at hanswer
      exact ⟨hanswer, rfl, hleft _ _ _ _ hread hread'⟩

theorem respects_write (hh : P h.slot) (c : Change) :
    Act.Respects (Alike P) (Alike P) ((b.host hostClock).write h c) := by
  simp only [host]
  split
  · exact Act.Respects.pure ()
  · refine Act.Respects.bind respects_clock (fun now => ?_) fun _ _ hwv => hwv
    exact fun _ _ hwv => ⟨rfl, hwv.clock, hwv.tables.writeAt hh now c⟩

theorem respects_clear : Act.Respects (Alike P) (Alike P) ((b.host hostClock).clear h) :=
  fun _ _ hwv => ⟨rfl, hwv.clock, hwv.tables.clear h⟩

/-- A cycle changes nothing in a region without its slot. -/
theorem observe_keeps_agreeOn {r : Rule} {p : Payload} (hh : ¬P h.slot) (u : Tables) :
    Act.Keeps (OfTables fun t => t.AgreeOn P u) (r.observe (b.onClocks hostClock clock) h p) := by
  have hread : Act.Keeps (OfTables fun t => t.AgreeOn P u) ((b.host hostClock).read h) :=
    keeps_read fun _ _ _ _ htu hread => htu.readAt_outside hh hread
  have hwrite : ∀ c, Act.Keeps (OfTables fun t => t.AgreeOn P u) ((b.host hostClock).write h c) :=
    fun c => keeps_write fun _ _ now htu => htu.writeAt_outside hh now c
  exact Rule.observe_keeps keeps_clock hread (Rule.apply_keeps hread hwrite)

end Behaviour
end ExpiryAudit
