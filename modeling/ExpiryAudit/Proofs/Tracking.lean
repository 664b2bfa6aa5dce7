import ExpiryAudit.Proofs.Contents
import ExpiryAudit.Proofs.Judgement
import ExpiryAudit.Proofs.Writes
import Mathlib.Data.Int.ConditionallyCompleteOrder
import Mathlib.Order.ConditionallyCompleteLattice.Basic

/-!
# Stores that track a history

A verifier and a reference store that read one clock. Every cycle stamps its update
within its window, and from then on the store presents the stamped updates. So a run
keeps the stamps of the store within the windows of the history.
-/
namespace ExpiryAudit

/-- A clock with given readings. Its state is the number of readings that were taken. -/
def Clock.ofReadings (readings : Nat → Int) : Act Nat Int := fun n => (.ok (readings n), n + 1)

/-- A reference store and a verifier over a clock with given readings. -/
def Behaviour.onReadings (b : Behaviour) (readings : Nat → Int) : Environment (Nat × Tables) :=
  b.onClocks (Clock.ofReadings readings) (Clock.ofReadings readings)

/-- A stamped update: the same payload, stamped within the window. -/
structure Update.Stamped (u stamp : Update) : Prop where
  payload : stamp.payload = u.payload
  before_le : u.window.before ≤ stamp.window.before
  le_after : stamp.window.after ≤ u.window.after

namespace Behaviour

/-- The store keeps what is written to it, with a whole lifetime. -/
structure Keeping (b : Behaviour) (r : Rule) (lifetime : Int) : Prop where
  forgets : ∀ c, b.forgets c = false
  lifetime : ∀ key, (b.lifetime (r.handle key)).IsWhole lifetime

/-- What is shown is of the kind of the rule, and what is kept is typed. -/
theorem Keeping.typed {b : Behaviour} {r : Rule} {lifetime : Int} (hb : b.Keeping r lifetime)
    (key : Text) {t : Tables} (ht : t.Typed) (now : Int) :
    r.kind.handleKind.Holds (t.shown lifetime (r.handle key) now) ∧
      (t.kept lifetime (r.handle key) now).Typed :=
  ht.readAt (Tables.readAt_eq_ok (hb.lifetime key))

/-- A read of a rule shows what the store shows at the instant that the clock reads. -/
theorem Keeping.run_rule_read {κ : Type} {hostClock clock : Act κ Int} {b : Behaviour} {r : Rule}
    {lifetime : Int} {key : Text} {w : κ × Tables} (hb : b.Keeping r lifetime) (ht : w.2.Typed)
    {now : Int} {k : κ} (hnow : hostClock.run w.1 = (.ok now, k)) :
    (r.read (b.onClocks hostClock clock).host (r.handle key)).run w =
      (.ok (.plain (w.2.shown lifetime (r.handle key) now)),
        k, w.2.kept lifetime (r.handle key) now) := by
  have husable : (r.handle key).Usable _ := HandleKind.Holds.usable (hb.typed key ht now).1
  exact (Act.run_bind_ok (run_read_whole (hb.lifetime key) hnow)).trans
    (by rw [Act.run_lift, husable.observed_ok])

/-- A payload is applied by one write, in which only a running sum depends on what is shown. -/
theorem Keeping.returns_apply {κ : Type} {hostClock clock : Act κ Int} {b : Behaviour} {r : Rule}
    {lifetime : Int} {key : Text} {p : Payload} {P Q : κ × Tables → Prop} {V : Json → Prop}
    (hb : b.Keeping r lifetime) (hhost : ∀ k, ∃ now k', hostClock.run k = (.ok now, k'))
    (hp : r.kind.Accepts p) (hnull : V .null) (htyped : ∀ w, P w → w.2.Typed)
    (hread : r.kind = .reducing → ∀ w now k, hostClock.run w.1 = (.ok now, k) → P w →
      V (w.2.shown lifetime (r.handle key) now) ∧ P (k, w.2.kept lifetime (r.handle key) now))
    (hwrite : ∀ v w now k, V v → hostClock.run w.1 = (.ok now, k) → P w →
      Q (k, w.2.writeAt (r.handle key) now (r.kind.changeFrom v p))) :
    Act.Returns P (r.apply (b.onClocks hostClock clock).host (r.handle key) p) fun _ => Q := by
  refine Rule.returns_apply_of hp hnull (fun hk w hw => ?_) fun v hv w hw => ?_
  · obtain ⟨now, k, hnow⟩ := hhost w.1
    obtain ⟨hv, hkept⟩ := hread hk w now k hnow hw
    have hkind := (hb.typed key (htyped w hw) now).1
    rw [hk] at hkind
    exact ⟨_, _, run_read_whole (hb.lifetime key) hnow, ⟨hkind, hv⟩, hkept⟩
  · obtain ⟨now, k, hnow⟩ := hhost w.1
    exact ⟨(), _, run_write (hb.forgets _) hnow, hwrite v w now k hv hnow hw⟩

variable {b : Behaviour} {readings : Nat → Int} {r : Rule} {lifetime : Int} {key : Text}
  {p : Payload} {w w' : Nat × Tables}

/-- A read takes one reading and returns what is shown then. -/
theorem run_read_shown (hb : b.Keeping r lifetime) {v : Json}
    (hread : ((b.onReadings readings).host.read (r.handle key)).run w = (.ok v, w')) :
    v = w.2.shown lifetime (r.handle key) (readings w.1) ∧
      w' = (w.1 + 1, w.2.kept lifetime (r.handle key) (readings w.1)) := by
  obtain ⟨now, hnow, hread⟩ := run_read_ok hread
  obtain ⟨hnow, hcount⟩ := Prod.mk.inj hnow
  cases hnow
  rw [Tables.readAt_eq_ok (hb.lifetime key)] at hread
  obtain ⟨hv, ht⟩ := Prod.mk.inj (Except.ok.inj hread)
  exact ⟨hv.symm, Prod.ext hcount.symm ht.symm⟩

/-- A write takes one reading as its stamp. -/
theorem run_write_stamped (hb : b.Keeping r lifetime) {c : Change}
    (hwrite : ((b.onReadings readings).host.write (r.handle key) c).run w = (.ok (), w')) :
    w' = (w.1 + 1, w.2.writeAt (r.handle key) (readings w.1) c) := by
  obtain ⟨now, hnow, ht⟩ := run_write_ok (hb.forgets c) hwrite
  obtain ⟨hnow, hcount⟩ := Prod.mk.inj hnow
  cases hnow
  exact Prod.ext hcount.symm ht

/-- What an update leaves in the store: one more stamped update, stamped by its write. -/
structure Applied (b : Behaviour) (readings : Nat → Int) (r : Rule) (lifetime : Int) (key : Text)
    (p : Payload) (stamps : List Update) (stamp : Update) (w w' : Nat × Tables) : Prop where
  payload : stamp.payload = p
  before_le : readings w.1 ≤ stamp.window.before
  written : ∃ change w₁, ((b.onReadings readings).host.write (r.handle key) change).run w₁ =
    (.ok (), w') ∧ readings w₁.1 = stamp.window.after ∧ w'.1 = w₁.1 + 1
  typed : w'.2.Typed
  elsewhere : w.2.SameElsewhere (r.handle key).slot w'.2
  presents : w'.2.Presents r.kind (r.handle key) lifetime (stamps ++ [stamp]) stamp.window.after

variable {stamps : List Update}

/-- An update that is one write is stamped by this write. -/
theorem applied_of_write (hb : b.Keeping r lifetime) (ht : w.2.Typed) {c : Change}
    (hwrite : ((b.onReadings readings).host.write (r.handle key) c).run w = (.ok (), w'))
    (hc : c.IsWhole)
    (hpresents : (w.2.writeAt (r.handle key) (readings w.1) c).Presents r.kind (r.handle key)
      lifetime (stamps ++ [⟨p, readings w.1, readings w.1, Int.le_refl _⟩]) (readings w.1)) :
    b.Applied readings r lifetime key p stamps
      ⟨p, readings w.1, readings w.1, Int.le_refl _⟩ w w' := by
  have hw' := run_write_stamped hb hwrite
  subst hw'
  exact ⟨rfl, Int.le_refl _, ⟨c, w, hwrite, rfl, rfl⟩, ht.writeAt _ _ hc,
    Tables.sameElsewhere_writeAt c, hpresents⟩

/-- Every rule applies a payload that it takes by one stamped write. -/
theorem run_apply_stamped (hmono : Monotone readings) (hb : b.Keeping r lifetime)
    (hp : r.kind.Accepts p) (ht : w.2.Typed)
    (hpresents : w.2.Presents r.kind (r.handle key) lifetime stamps (readings w.1))
    (happly : (r.apply (b.onReadings readings).host (r.handle key) p).run w = (.ok (), w')) :
    ∃ stamp, b.Applied readings r lifetime key p stamps stamp w w' := by
  have hhandle : (r.handle key).kind = r.kind.handleKind := rfl
  unfold Rule.apply at happly
  cases hk : r.kind with
  | value =>
    rw [hk] at happly hp hpresents hhandle
    obtain ⟨n, w₁, hlifted, hwrite⟩ := Act.run_bind_eq_ok happly
    obtain ⟨hamount, rfl⟩ := Act.run_lift_eq_ok hlifted
    rw [hp.eq_int (by decide)] at hamount
    cases hamount
    refine ⟨_, applied_of_write hb ht hwrite (Json.isWhole_int _) ?_⟩
    rw [hk]
    exact Tables.presents_value hhandle rfl
  | list =>
    rw [hk] at happly hp hpresents hhandle
    obtain ⟨n, w₁, hlifted, hwrite⟩ := Act.run_bind_eq_ok happly
    obtain ⟨hamount, rfl⟩ := Act.run_lift_eq_ok hlifted
    rw [hp.eq_int (by decide)] at hamount
    cases hamount
    refine ⟨_, applied_of_write hb ht hwrite trivial ?_⟩
    rw [hk]
    exact hpresents.append hhandle (Int.le_refl _) rfl
  | map =>
    rw [hk] at happly hp hpresents hhandle
    obtain ⟨e, w₁, hlifted, hwrite⟩ := Act.run_bind_eq_ok happly
    obtain ⟨hentry, rfl⟩ := Act.run_lift_eq_ok hlifted
    rw [hp.mapEntry_eq_ok] at hentry
    cases hentry
    refine ⟨_, applied_of_write hb ht hwrite trivial ?_⟩
    rw [hk]
    exact hpresents.put ht hhandle (Int.le_refl _) rfl
  | reducing =>
    rw [hk] at happly hp hpresents hhandle
    obtain ⟨n, w₁, hlifted, happly⟩ := Act.run_bind_eq_ok happly
    obtain ⟨hamount, rfl⟩ := Act.run_lift_eq_ok hlifted
    rw [hp.eq_int (by decide)] at hamount
    cases hamount
    obtain ⟨current, w₂, hread, happly⟩ := Act.run_bind_eq_ok happly
    obtain ⟨sum, w₃, hlifted, hwrite⟩ := Act.run_bind_eq_ok happly
    obtain ⟨hsum, rfl⟩ := Act.run_lift_eq_ok hlifted
    obtain ⟨rfl, rfl⟩ := run_read_shown hb hread
    obtain ⟨hkind, htyped⟩ := hb.typed key ht (readings w.1)
    rw [hk] at hkind
    have hwhole : (Change.replace sum).IsWhole :=
      Option.isSome_iff_exists.2 ⟨_, Rule.whole?_addTo hkind hsum⟩
    have hw' := run_write_stamped hb hwrite
    subst hw'
    refine ⟨⟨p, readings w.1, readings (w.1 + 1), hmono (Nat.le_succ _)⟩, rfl, Int.le_refl _,
      ⟨_, _, hwrite, rfl, rfl⟩, htyped.writeAt _ _ hwhole,
      Tables.sameElsewhere_kept.trans (Tables.sameElsewhere_writeAt _), ?_⟩
    rw [hk]
    exact hpresents.addTo hhandle (Int.le_refl _) rfl hsum hkind

/-- A read of a rule shows a value of its kind and keeps what the store presents. -/
theorem run_rule_read (hb : b.Keeping r lifetime) (ht : w.2.Typed) {x : Reading}
    (hread : (r.read (b.onReadings readings).host (r.handle key)).run w = (.ok x, w')) :
    ((b.onReadings readings).host.read (r.handle key)).run w =
        (.ok (w.2.shown lifetime (r.handle key) (readings w.1)), w') ∧
      x = .plain (w.2.shown lifetime (r.handle key) (readings w.1)) ∧
      w' = (w.1 + 1, w.2.kept lifetime (r.handle key) (readings w.1)) ∧ w'.2.Typed := by
  obtain ⟨v, w₁, hv, hlifted⟩ := Act.run_bind_eq_ok hread
  obtain ⟨hobserved, rfl⟩ := Act.run_lift_eq_ok hlifted
  obtain ⟨rfl, rfl⟩ := run_read_shown hb hv
  obtain ⟨hkind, htyped⟩ := hb.typed key ht (readings w.1)
  have husable : (r.handle key).Usable _ := HandleKind.Holds.usable hkind
  rw [husable.observed_ok] at hobserved
  exact ⟨hv, (Except.ok.inj hobserved).symm, rfl, htyped⟩

/-- A cycle of a rule against a store that presents stamped updates. -/
structure Cycle (b : Behaviour) (readings : Nat → Int) (r : Rule) (lifetime : Int) (key : Text)
    (stamps : List Update) (o : Observation) (stamp : Update) (w w' : Nat × Tables) : Prop where
  payload : stamp.payload = o.payload
  before_eq : o.before = readings w.1
  before_le : o.before ≤ stamp.window.before
  le_after : stamp.window.after ≤ o.after
  /-- The first read shows the updates so far. -/
  shownBefore : ∃ i before, o.before ≤ readings i ∧ readings i ≤ o.after ∧
    o.valueBefore = .plain before ∧ r.kind.Shows (lifetime - 1) stamps (readings i) before
  /-- The second read shows one update more. -/
  shownAfter : ∃ change w₁ w₂ w₃ after,
    ((b.onReadings readings).host.write (r.handle key) change).run w₁ = (.ok (), w₂) ∧
    readings w₁.1 = stamp.window.after ∧
    ((b.onReadings readings).host.read (r.handle key)).run w₂ = (.ok after, w₃) ∧
    stamp.window.after ≤ readings w₂.1 ∧ readings w₂.1 ≤ o.after ∧
    o.valueAfter = .plain after ∧ w' = (w₃.1 + 1, w₃.2) ∧
    r.kind.Shows (lifetime - 1) (stamps ++ [stamp]) (readings w₂.1) after
  later : o.after ≤ readings w'.1
  typed : w'.2.Typed
  elsewhere : w.2.SameElsewhere (r.handle key).slot w'.2
  presents : w'.2.Presents r.kind (r.handle key) lifetime (stamps ++ [stamp]) (readings w'.1)

theorem run_clock {n : Int} (hnow : (b.onReadings readings).now.run w = (.ok n, w')) :
    n = readings w.1 ∧ w' = (w.1 + 1, w.2) := by
  cases hnow
  exact ⟨rfl, rfl⟩

end Behaviour

/-! ## The invariant -/

namespace Auditor

variable {a : Auditor (Nat × Tables)} {b : Behaviour} {readings : Nat → Int} {lifetime : Int}

/-- In every slot of a rule the store presents the history of the slot, stamped. The
windows of the history begin at readings and do not clash with each other. -/
structure Tracks (a : Auditor (Nat × Tables)) (readings : Nat → Int) (lifetime : Int)
    (w : Nat × Tables) (h : History) : Prop where
  typed : w.2.Typed
  stamped : ∀ r ∈ a.rules, ∀ key, ∃ stamps,
    List.Forall₂ Update.Stamped (h.load ⟨key, r.id⟩) stamps ∧
    w.2.Presents r.kind (r.handle key) lifetime stamps (readings w.1)
  read : ∀ r ∈ a.rules, ∀ key, ∀ u ∈ h.load ⟨key, r.id⟩, ∃ i, u.window.before = readings i
  apart : ∀ r ∈ a.rules, ∀ key, (h.load ⟨key, r.id⟩).Pairwise fun u v =>
    u.window.Apart a.detector.lifetime v.window

/-- A cycle of one rule whose update is recorded after some earlier ones. -/
theorem Tracks.cycle {w₀ w w' : Nat × Tables} {h₀ h : History}
    (ht : a.Tracks readings lifetime w₀ h₀) {r : Rule} (hr : r ∈ a.rules) {key : Text}
    {previous stamps : List Update} {o : Observation} {u stamp : Update}
    (hcount : readings w₀.1 ≤ readings w.1) (helsewhere : w₀.2.SameElsewhere (r.handle key).slot w.2)
    (hprevious : List.Forall₂ Update.Stamped previous stamps)
    (hread : ∀ q ∈ previous, ∃ i, q.window.before = readings i)
    (hapart : (previous ++ [u]).Pairwise fun u v =>
      u.window.Apart a.detector.lifetime v.window)
    (hcycle : b.Cycle readings r lifetime key stamps o stamp w w') (hu : o.update = .ok u)
    (hload : ∀ s, h.load s = if s = ⟨key, r.id⟩ then previous ++ [u] else h₀.load s) :
    a.Tracks readings lifetime w' h := by
  obtain ⟨hpayload, hbefore, hafter⟩ := Observation.update_eq_ok hu
  have hlater : readings w₀.1 ≤ readings w'.1 := by
    have h₁ := hcycle.before_eq
    have h₂ := hcycle.later
    have h₃ := u.window.before_le_after
    omega
  have hother : ∀ r' ∈ a.rules, ∀ key', ¬(⟨key', r'.id⟩ : Slot) = ⟨key, r.id⟩ →
      (r'.handle key').slot ≠ (r.handle key).slot := fun r' _ key' hne h => hne h
  refine ⟨hcycle.typed, fun r' hr' key' => ?_, fun r' hr' key' => ?_, fun r' hr' key' => ?_⟩
  · rw [hload]
    split
    · next hslot =>
      cases eq_of_id_eq hr' hr (congrArg Slot.name hslot)
      cases congrArg Slot.key hslot
      refine ⟨stamps ++ [stamp], List.rel_append hprevious (.cons ?_ .nil), hcycle.presents⟩
      refine ⟨hcycle.payload.trans hpayload.symm, ?_, ?_⟩
      · exact hbefore ▸ hcycle.before_le
      · exact hafter ▸ hcycle.le_after
    · next hslot =>
      obtain ⟨stamps', hstamped, hpresents⟩ := ht.stamped r' hr' key'
      refine ⟨stamps', hstamped, ?_⟩
      exact (hpresents.later hlater).elsewhere (helsewhere.trans hcycle.elsewhere)
        (hother r' hr' key' hslot)
  · rw [hload]
    split
    · intro q hq
      rcases List.mem_append.1 hq with hq | hq
      · exact hread q hq
      · cases List.mem_singleton.1 hq
        exact ⟨w.1, hbefore.trans hcycle.before_eq⟩
    · exact ht.read r' hr' key'
  · rw [hload]
    split
    · exact hapart
    · exact ht.apart r' hr' key'

end Auditor
end ExpiryAudit
