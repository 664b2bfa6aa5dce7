import ExpiryAudit.Host.Scripted
import ExpiryAudit.Proofs.Regions

/-!
# What a reference store shows

With whole lifetimes the answer to a read is a function of what the store holds and the
instant. A store in which updates were stamped one after another shows what a rule would
expect of updates with the stamps as their windows, for a lifetime that is shorter by
one: an entry is gone at the end of its lifetime, while a rule lets it last.
-/
namespace ExpiryAudit

namespace Tables

/-- An entry is still there at an instant. -/
def alive (lifetime now written : Int) : Bool := decide (now < written + lifetime)

/-- The answer to a read at an instant. -/
def shown (lifetime : Int) (h : Handle) (now : Int) (t : Tables) : Json :=
  match h.kind with
  | .value =>
    match (t.values.get? h.slot).filter fun e => alive lifetime now e.2 with
    | some e => e.1
    | none => .null
  | .list => .arr ((((t.lists.get? h.slot).getD []).filter fun e =>
      alive lifetime now e.2).map fun e => .int e.1)
  | .map => .obj ((((t.maps.get? h.slot).getD []).filter fun e =>
      alive lifetime now e.2.2).map fun e => (e.1, .int e.2.1))

/-- What a read at an instant leaves. -/
def kept (lifetime : Int) (h : Handle) (now : Int) (t : Tables) : Tables :=
  match h.kind with
  | .value =>
    match t.values.get? h.slot with
    | none => t
    | some e => if alive lifetime now e.2 then t else { t with values := t.values.erase h.slot }
  | .list => { t with
      lists := t.lists.set h.slot (((t.lists.get? h.slot).getD []).filter fun e =>
        alive lifetime now e.2) }
  | .map => { t with
      maps := t.maps.set h.slot (((t.maps.get? h.slot).getD []).filter fun e =>
        alive lifetime now e.2.2) }

variable {lifetime : Int} {h g : Handle} {now instant : Int} {t : Tables}

/-- A read with a whole lifetime never fails. -/
theorem readAt_eq_ok {b : Behaviour} (hb : (b.lifetime h).IsWhole lifetime) :
    t.readAt b h now = .ok (t.shown lifetime h now, t.kept lifetime h now) := by
  obtain ⟨s, hs, rfl⟩ := hb
  unfold readAt shown kept
  cases h.kind with
  | value =>
    cases hfound : t.values.get? h.slot with
    | none => rfl
    | some e =>
      obtain ⟨v, written⟩ := e
      by_cases hgone : written + s.amount ≤ now
      · have hdead : alive s.amount now written = false := decide_eq_false (by omega)
        simp [Behaviour.gone, hs, hgone, hdead, Option.filter_some, bind, Except.bind, pure, Except.pure]
      · have halive : alive s.amount now written = true := decide_eq_true (by omega)
        simp [Behaviour.gone, hs, hgone, halive, Option.filter_some, bind, Except.bind, pure, Except.pure]
  | list =>
    simp only [Behaviour.alive, hs, Lifetime.endsAfter_whole]
    rw [Lifetime.keep_ok]
    rfl
  | map =>
    simp only [Behaviour.alive, hs, Lifetime.endsAfter_whole]
    rw [Lifetime.keep_ok]
    rfl

/-- Elsewhere the tables show the same. -/
def SameElsewhere (s : Slot) (t t' : Tables) : Prop :=
  ∀ (lifetime : Int) (g : Handle) (now : Int), g.slot ≠ s →
    t'.shown lifetime g now = t.shown lifetime g now

theorem SameElsewhere.trans {s : Slot} {t t' t'' : Tables} (h : SameElsewhere s t t')
    (h' : SameElsewhere s t' t'') : SameElsewhere s t t'' := fun lifetime g now hg =>
  (h' lifetime g now hg).trans (h lifetime g now hg)

/-- Tables that hold the same in all slots but one show the same elsewhere. -/
theorem sameElsewhere_of_agreeOn {s : Slot} {t t' : Tables} (h : t'.AgreeOn (· ≠ s) t) :
    SameElsewhere s t t' := by
  intro lifetime g now hg
  unfold shown
  rw [h.values _ hg, h.lists _ hg, h.maps _ hg]

theorem sameElsewhere_kept : SameElsewhere h.slot t (t.kept lifetime h now) := by
  have hself := AgreeOn.refl (P := (· ≠ h.slot)) t
  have hslot : ¬h.slot ≠ h.slot := not_not_intro rfl
  refine sameElsewhere_of_agreeOn ?_
  unfold kept
  cases h.kind with
  | value =>
    dsimp only
    split
    · exact hself
    · split
      · exact hself
      · exact ⟨hself.values.erase_outside hslot, hself.lists, hself.maps⟩
  | list => exact ⟨hself.values, hself.lists.set_outside hslot _, hself.maps⟩
  | map => exact ⟨hself.values, hself.lists, hself.maps.set_outside hslot _⟩

theorem sameElsewhere_writeAt (c : Change) : SameElsewhere h.slot t (t.writeAt h now c) :=
  sameElsewhere_of_agreeOn ((AgreeOn.refl t).writeAt_outside (not_not_intro rfl) now c)

/-- An entry that is gone stays gone. -/
theorem alive_of_le {written : Int} (hle : instant ≤ now) (h : alive lifetime now written) :
    alive lifetime instant written := by
  have hnow : now < written + lifetime := of_decide_eq_true h
  exact decide_eq_true (by omega)

/-- What a read drops would not be shown later. -/
theorem shown_kept (hle : instant ≤ now) :
    (t.kept lifetime h instant).shown lifetime h now = t.shown lifetime h now := by
  have hboth : ∀ written, (alive lifetime now written && alive lifetime instant written) =
      alive lifetime now written := by
    intro written
    cases hnow : alive lifetime now written with
    | false => rfl
    | true => rw [alive_of_le hle hnow, Bool.and_self]
  unfold shown kept
  cases h.kind with
  | value =>
    cases hfound : t.values.get? h.slot with
    | none => simp [hfound]
    | some e =>
      cases hthen : alive lifetime instant e.2 with
      | true => simp [hfound, hthen]
      | false =>
        have hnow : alive lifetime now e.2 = false := by
          rw [← hboth, hthen, Bool.and_false]
        simp [hthen, hnow, SlotTable.get?_erase, Option.filter_some]
  | list => simp [List.filter_filter, hboth]
  | map => simp [List.filter_filter, hboth]

/-! ## Stamped updates -/

/-- From an instant on, the tables show what is expected of updates with their stamps as
windows. -/
def Presents (k : RuleKind) (h : Handle) (lifetime : Int) (stamps : List Update) (start : Int)
    (t : Tables) : Prop :=
  ∀ now, start ≤ now → k.Shows (lifetime - 1) stamps now (t.shown lifetime h now)

section Presents

variable {k : RuleKind} {stamps : List Update} {stamp : Update} {start : Int}

/-- A stamped entry is there as long as its update lasts for a lifetime that is shorter
by one. -/
theorem lasts_eq_alive (w : Window) :
    w.lasts (lifetime - 1) now = alive lifetime now w.after := by
  unfold Window.lasts alive
  refine decide_eq_decide.2 ?_
  omega

theorem Presents.later (hp : Presents k h lifetime stamps start t) (hle : start ≤ instant) :
    Presents k h lifetime stamps instant t := fun now hnow => hp now (Int.le_trans hle hnow)

theorem Presents.kept (hp : Presents k h lifetime stamps start t) (hle : start ≤ instant) :
    Presents k h lifetime stamps instant (t.kept lifetime h instant) := by
  intro now hnow
  rw [shown_kept hnow]
  exact hp now (Int.le_trans hle hnow)

theorem Presents.elsewhere (hp : Presents k g lifetime stamps start t) {t' : Tables}
    (hsame : SameElsewhere h.slot t t') (hg : g.slot ≠ h.slot) :
    Presents k g lifetime stamps start t' := by
  intro now hnow
  rw [hsame lifetime g now hg]
  exact hp now hnow

/-- A slot that shows nothing presents no updates. -/
theorem presents_nil (hk : h.kind = k.handleKind)
    (hshown : ∀ now, t.shown lifetime h now = Script.nothing h.kind) :
    Presents k h lifetime [] start t := by
  intro now _
  rw [hshown, hk]
  cases k with
  | value => rfl
  | list =>
    intro items hitems
    cases hitems
    rfl
  | map =>
    intro members hmembers name
    cases hmembers
    rfl
  | reducing => rfl

theorem presents_empty (hk : h.kind = k.handleKind) :
    Presents k h lifetime [] start empty := by
  refine presents_nil hk fun now => ?_
  unfold shown
  cases h.kind <;> rfl

/-- A single value is shown until the end of its lifetime. -/
theorem shown_replace (hh : h.kind = .value) (v : Json) :
    (t.writeAt h instant (.replace v)).shown lifetime h now =
      if alive lifetime now instant then v else .null := by
  unfold shown
  rw [hh, writeAt]
  dsimp only
  rw [SlotTable.get?_set_self, Option.filter_some]
  cases alive lifetime now instant <;> rfl

theorem presents_value (hh : h.kind = .value) (hstamp : stamp.window.after = instant) :
    Presents .value h lifetime (stamps ++ [stamp]) instant
      (t.writeAt h instant (.replace (.int stamp.payload.number))) := by
  intro now _
  show Json.whole? _ = Expected.value _ _ _
  rw [shown_replace hh, Expected.value_append, lasts_eq_alive, hstamp]
  cases alive lifetime now instant <;> rfl

theorem Presents.append (hp : Presents .list h lifetime stamps start t) (hh : h.kind = .list)
    (hle : start ≤ instant) (hstamp : stamp.window.after = instant) :
    Presents .list h lifetime (stamps ++ [stamp]) instant
      (t.writeAt h instant (.append stamp.payload.number)) := by
  intro now hnow items hitems
  have hbefore := hp now (Int.le_trans hle hnow)
  unfold shown at hitems hbefore
  rw [hh] at hitems hbefore
  have hbefore := hbefore _ rfl
  rw [writeAt] at hitems
  dsimp only at hitems
  rw [SlotTable.get?_set_self, Option.getD_some, List.filter_append, List.map_append] at hitems
  rw [← Json.arr.inj hitems, List.map_append, hbefore, Expected.list_append, List.map_append,
    lasts_eq_alive, hstamp]
  cases halive : alive lifetime now instant <;> simp [halive, Json.whole?]

theorem Presents.put (hp : Presents .map h lifetime stamps start t) (ht : t.Typed)
    (hh : h.kind = .map) (hle : start ≤ instant) (hstamp : stamp.window.after = instant) :
    Presents .map h lifetime (stamps ++ [stamp]) instant
      (t.writeAt h instant (.put stamp.payload.named.1 stamp.payload.named.2)) := by
  intro now hnow members hmembers name
  have hbefore := hp now (Int.le_trans hle hnow)
  unfold shown at hmembers hbefore
  rw [hh] at hmembers hbefore
  have hbefore := hbefore _ rfl name
  have hd := ht.distinct h.slot
  have hfound : ∀ {entries : List (Text × (Int × Int))}, Named.Distinct entries →
      Json.wholeAt ((entries.filter fun e => alive lifetime now e.2.2).map
        fun e => (e.1, .int e.2.1)) name =
      ((Named.find? entries name).filter fun e => alive lifetime now e.2).map (·.1) := by
    intro entries hd
    rw [Json.wholeAt, Named.find?_map (fun e : Int × Int => Json.int e.1),
      hd.find?_filter fun e => alive lifetime now e.2]
    cases (Named.find? entries name).filter fun e => alive lifetime now e.2 <;> rfl
  rw [hfound hd] at hbefore
  rw [writeAt] at hmembers
  dsimp only at hmembers
  rw [SlotTable.get?_set_self, Option.getD_some] at hmembers
  rw [← Json.obj.inj hmembers, hfound (hd.insert _ _), Named.find?_insert,
    Expected.entry_append, lasts_eq_alive, hstamp, ← hbefore]
  by_cases hname : name = stamp.payload.named.1
  · rw [if_pos hname, if_pos hname.symm, Option.filter_some]
    cases alive lifetime now instant <;> rfl
  · rw [if_neg hname, if_neg (Ne.symm hname)]

/-- A sum that is read, added to and written presents one more update, whose window
begins when the sum was read. -/
theorem Presents.addTo (hp : Presents .reducing h lifetime stamps start t) {t' : Tables}
    (hh : h.kind = .value) (hle : start ≤ stamp.window.before)
    (hstamp : stamp.window.after = instant) {sum : Json}
    (hsum : Rule.addTo (t.shown lifetime h stamp.window.before)
      (.raw (.int stamp.payload.number)) = .ok sum)
    (hkind : HandleKind.value.Holds (t.shown lifetime h stamp.window.before)) :
    Presents .reducing h lifetime (stamps ++ [stamp]) instant
      (t'.writeAt h instant (.replace sum)) := by
  intro now _
  have hbefore : (t.shown lifetime h stamp.window.before).whole? =
      Expected.sum (lifetime - 1) stamps stamp.window.before := hp _ hle
  have hwhole : sum.whole? = some
      ((Expected.sum (lifetime - 1) stamps stamp.window.before).getD 0 + stamp.payload.number) := by
    rw [← hbefore]
    exact Rule.whole?_addTo hkind hsum
  show Json.whole? _ = Expected.sum _ _ _
  rw [shown_replace hh, Expected.sum_append, lasts_eq_alive, hstamp, ← hwhole]
  cases alive lifetime now instant <;> rfl

end Presents
end Tables

/-- With a whole lifetime a read returns what is shown at the instant that the clock reads. -/
theorem Behaviour.run_read_whole {κ : Type} {b : Behaviour} {hostClock : Act κ Int} {h : Handle}
    {lifetime : Int} (hb : (b.lifetime h).IsWhole lifetime) {s : κ × Tables} {now : Int} {k : κ}
    (hclock : hostClock.run s.1 = (.ok now, k)) : ((b.host hostClock).read h).run s =
      (.ok (s.2.shown lifetime h now), k, s.2.kept lifetime h now) := by
  rw [run_read hclock, Tables.readAt_eq_ok hb]

end ExpiryAudit
