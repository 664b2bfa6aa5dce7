import ExpiryAudit.Proofs.FalseAlarm
import ExpiryAudit.Proofs.Holdings
import ExpiryAudit.Proofs.Outcome
import ExpiryAudit.Proofs.Replay

/-!
# What a clash leaves

An ambiguous update is applied twice, and what its slot holds is dropped in between. In the
end the slot holds the second write alone, unless this has expired as well, and nothing of
the first write, of earlier updates or of whatever the store held before.
-/
namespace ExpiryAudit

/-- The part of a cycle up to its update. -/
def Rule.applied {σ : Type} (r : Rule) (env : Environment σ) (h : Handle) (p : Payload) :
    Act σ Unit := do
  let _ ← env.now
  let _ ← r.read env.host h
  r.apply env.host h p

/-- A cycle reads once more after its update, and then the clock. -/
theorem Rule.run_observe_of_applied {σ : Type} {r : Rule} {env : Environment σ} {h : Handle}
    {p : Payload} {w w₁ w₂ w₃ : σ} {x : Reading} {after : Int}
    (happlied : (r.applied env h p).run w = (.ok (), w₁))
    (hread : (r.read env.host h).run w₁ = (.ok x, w₂)) (hnow : env.now.run w₂ = (.ok after, w₃)) :
    ∃ o, (r.observe env h p).run w = (.ok o, w₃) ∧ o.payload = p := by
  obtain ⟨before, v₁, hbefore, happlied⟩ := Act.run_bind_eq_ok happlied
  obtain ⟨valueBefore, v₂, hvalueBefore, happly⟩ := Act.run_bind_eq_ok happlied
  refine ⟨⟨before, valueBefore, p, x, after⟩, ?_, rfl⟩
  rw [observe, Act.run_bind_ok hbefore, Act.run_bind_ok hvalueBefore, Act.run_bind_ok happly,
    Act.run_bind_ok hread, Act.run_bind_ok hnow, Act.run_pure]

namespace Tables

variable {lifetime : Int} {h : Handle} {now : Int} {t rest : Tables}

/-- A single value that was never written is not shown. -/
theorem shown_eq_null (hh : h.kind = .value) (hempty : t.held h = []) :
    t.shown lifetime h now = .null := by
  unfold held at hempty
  rw [hh] at hempty
  have hnone : t.values.get? h.slot = none := by simpa using hempty
  simp [shown, hh, hnone]

/-- Typed tables that hold the given ones around the slot of a handle. -/
structure Around (h : Handle) (rest t : Tables) : Prop where
  typed : t.Typed
  rest : t.clear h = rest

namespace Around

theorem kept {r : Rule} {key : Text} {b : Behaviour} (hb : b.Keeping r lifetime)
    (ht : Around (r.handle key) rest t) (now : Int) :
    Around (r.handle key) rest (t.kept lifetime (r.handle key) now) where
  typed := (hb.typed key ht.typed now).2
  rest := clear_kept.trans ht.rest

theorem writeAt (ht : Around h rest t) (now : Int) {c : Change} (hc : c.IsWhole)
    (hkind : c.kind = h.kind) : Around h rest (t.writeAt h now c) where
  typed := ht.typed.writeAt h now hc
  rest := (clear_writeAt hkind).trans ht.rest

theorem clear (ht : Around h rest t) : Around h rest (t.clear h) where
  typed := ht.typed.clear h
  rest := clear_clear.trans ht.rest

end Around
end Tables

namespace Behaviour

variable {κ : Type} {b : Behaviour} {hostClock clock : Act κ Int} {r : Rule} {lifetime : Int}
  {key : Text} {p : Payload} {rest : Tables} {w w₁ : κ × Tables}

/-! ## Cycles of a store whose clocks can be read -/

theorem run_now {k : κ} {now : Int} (hnow : clock.run w.1 = (.ok now, k)) :
    (b.onClocks hostClock clock).now.run w = (.ok now, k, w.2) := by
  show (clock.within (·.1) fun c (s : κ × Tables) => (c, s.2)).run w = _
  rw [Act.run_within, hnow]

section Clocks

variable (hb : b.Keeping r lifetime) (hhost : ∀ k, ∃ now k', hostClock.run k = (.ok now, k'))
  (hclock : ∀ k, ∃ now k', clock.run k = (.ok now, k'))

include hb hhost hclock

/-- Up to its update a cycle reads and then writes once. -/
theorem returns_applied {I J : Tables → Prop} {V : Json → Prop} (hp : r.kind.Accepts p)
    (hnull : V .null) (htyped : ∀ t, I t → t.Typed)
    (hkept : ∀ t now, I t → I (t.kept lifetime (r.handle key) now))
    (hshown : r.kind = .reducing → ∀ t now, I t → V (t.shown lifetime (r.handle key) now))
    (hwritten : ∀ v t now, V v → I t → J (t.writeAt (r.handle key) now (r.kind.changeFrom v p))) :
    Act.Returns (OfTables I) (r.applied (b.onClocks hostClock clock) (r.handle key) p)
      fun _ => OfTables J := by
  have hnow : Act.Returns (OfTables I) (b.onClocks hostClock clock).now fun _ => OfTables I := by
    intro w hw
    obtain ⟨now, k, hnow⟩ := hclock w.1
    exact ⟨now, (k, w.2), run_now hnow, hw⟩
  have hread : Act.Returns (OfTables I) (r.read (b.onClocks hostClock clock).host (r.handle key))
      fun _ => OfTables I := by
    intro w hw
    obtain ⟨now, k, hnow⟩ := hhost w.1
    exact ⟨_, _, hb.run_rule_read (htyped _ hw) hnow, hkept _ now hw⟩
  refine hnow.bind fun _ => hread.bind fun _ => ?_
  exact hb.returns_apply hhost hp hnull (fun w => htyped w.2)
    (fun hk w now _ _ hw => ⟨hshown hk w.2 now hw, hkept w.2 now hw⟩)
    fun v w now _ hv _ hw => hwritten v w.2 now hv hw

/-- In the end of a cycle the slot is as its second read has left it. -/
theorem run_observe_of_applied
    (happlied : (r.applied (b.onClocks hostClock clock) (r.handle key) p).run w = (.ok (), w₁))
    (ht : w₁.2.Typed) : ∃ o k second,
      (r.observe (b.onClocks hostClock clock) (r.handle key) p).run w =
        (.ok o, k, w₁.2.kept lifetime (r.handle key) second) ∧
      o.payload = p ∧ (hostClock.run w₁.1).1 = .ok second := by
  obtain ⟨second, k, hsecond⟩ := hhost w₁.1
  obtain ⟨after, k', hafter⟩ := hclock k
  obtain ⟨o, hobserve, hpayload⟩ := Rule.run_observe_of_applied happlied
    (hb.run_rule_read ht hsecond) (run_now (w := (k, _)) hafter)
  exact ⟨o, k', second, hobserve, hpayload, congrArg Prod.fst hsecond⟩

/-- A cycle changes its own slot only. -/
theorem run_observe_around (hp : r.kind.Accepts p) (ht : Tables.Around (r.handle key) rest w.2) :
    ∃ o w', (r.observe (b.onClocks hostClock clock) (r.handle key) p).run w = (.ok o, w') ∧
      Tables.Around (r.handle key) rest w'.2 := by
  have hreturns : Act.Returns (OfTables (Tables.Around (r.handle key) rest))
      (r.applied (b.onClocks hostClock clock) (r.handle key) p)
      fun _ => OfTables (Tables.Around (r.handle key) rest) := by
    refine returns_applied (V := fun _ => True) hb hhost hclock hp trivial
      (fun t ht => ht.typed) (fun t now ht => ht.kept hb now) (fun _ _ _ _ => trivial) ?_
    intro v t now _ ht
    exact ht.writeAt now (r.kind.isWhole_changeFrom v p) (r.kind.kind_changeFrom v p)
  obtain ⟨⟨⟩, w₁, happlied, ht₁⟩ := hreturns w ht
  obtain ⟨o, k, second, hobserve, -⟩ := run_observe_of_applied hb hhost hclock happlied ht₁.typed
  exact ⟨o, _, hobserve, ht₁.kept hb second⟩

/-- What is written to an empty slot is the payload alone, even for a running sum. -/
theorem run_applied_empty (hp : r.kind.Accepts p) (ht : Tables.Around (r.handle key) rest w.2)
    (hempty : w.2.held (r.handle key) = []) : ∃ w₁ stamp,
      (r.applied (b.onClocks hostClock clock) (r.handle key) p).run w = (.ok (), w₁) ∧
      Tables.Around (r.handle key) rest w₁.2 ∧
      w₁.2.held (r.handle key) = [(r.kind.change p, stamp)] := by
  -- Until the write the slot stays empty, so that a sum starts from what is not there.
  have hreturns : Act.Returns
      (OfTables fun t => Tables.Around (r.handle key) rest t ∧ t.held (r.handle key) = [])
      (r.applied (b.onClocks hostClock clock) (r.handle key) p)
      fun _ => OfTables fun t => Tables.Around (r.handle key) rest t ∧
        ∃ stamp, t.held (r.handle key) = [(r.kind.change p, stamp)] := by
    refine returns_applied (V := (· = .null)) hb hhost hclock hp rfl
      (fun t ht => ht.1.typed) (fun t now ht => ⟨ht.1.kept hb now, ?_⟩) (fun hk t now ht => ?_) ?_
    · rw [Tables.held_kept, ht.2, List.filter_nil]
    · exact Tables.shown_eq_null (congrArg RuleKind.handleKind hk) ht.2
    · rintro v t now rfl ht
      have hkind := r.kind.kind_changeFrom .null p
      refine ⟨ht.1.writeAt now (r.kind.isWhole_changeFrom .null p) hkind, now, ?_⟩
      rw [Tables.held_writeAt hkind ht.2, RuleKind.changeFrom_null]
  obtain ⟨⟨⟩, w₁, happlied, ht₁, stamp, hheld⟩ := hreturns w ⟨ht, hempty⟩
  exact ⟨w₁, stamp, happlied, ht₁, hheld⟩

end Clocks
end Behaviour

namespace Auditor

variable {κ : Type} {hostClock clock : Act κ Int}

/-- What is left of a slot: one update in its history, some entries in the store, and nothing
elsewhere that was not there before. One update was counted as a clash with no history. -/
structure LeavesOne (r : Rule) (key : Text) (u : Update) (entries : List (Change × Int))
    (s t : Session (κ × Tables)) : Prop where
  history : t.history.load ⟨key, r.id⟩ = [u]
  histories : ∀ slot, slot ≠ ⟨key, r.id⟩ → t.history.load slot = s.history.load slot
  held : t.world.2.held (r.handle key) = entries
  elsewhere : t.world.2.clear (r.handle key) = s.world.2.clear (r.handle key)
  counted : s.Counted t true 0

/-- A clash leaves no residue. An evaluation starts from any typed state of a store that drops
what has expired, and from any history. If its first attempt is ambiguous, it is judged with no
earlier updates, and in the end the history of its slot is the update of the second attempt.
The store holds nothing in the slot but the write of the second attempt, which is the payload
with nothing added to it, or nothing at all if this write had expired at the second read. The
other slots and histories are as before, and one update was counted, a clash without a history. -/
theorem clash_leaves_no_residue {a : Auditor (κ × Tables)} {r : Rule} {lifetime : Int}
    (key : Text) {p : Payload} {s : Session (κ × Tables)}
    (henv : a.environment = Behaviour.faithful.onClocks hostClock clock)
    (hhost : ∀ k, ∃ now k', hostClock.run k = (.ok now, k'))
    (hclock : ∀ k, ∃ now k', clock.run k = (.ok now, k'))
    (hr : r.lifetime.IsWhole lifetime) (hp : r.kind.Accepts p) (ht : s.world.2.Typed) :
    let h := r.handle key
    ∃ o₁ w₁ o₂ w₂ stamp second,
      (r.observe a.environment h p).run s.world = (.ok o₁, w₁) ∧
      (r.applied a.environment h p).run (w₁.1, w₁.2.clear h) = (.ok (), w₂) ∧
      w₂.2.held h = [(r.kind.change p, stamp)] ∧ (hostClock.run w₂.1).1 = .ok second ∧
      ((r.observe a.environment h p).run (w₁.1, w₁.2.clear h)).1 = .ok o₂ ∧
      ∀ u₁ u₂, o₁.update = .ok u₁ → o₂.update = .ok u₂ →
        a.detector.isAmbiguous u₁.window (windows (s.history.load ⟨key, r.id⟩)) = true →
        u₂.payload = p ∧ a.EndsWith r key p s ⟨key, r, [], o₂⟩ (LeavesOne r key u₂
          (if second < stamp + lifetime then [(r.kind.change p, stamp)] else []) s) := by
  intro h
  have hb := keeping_faithful hr
  have haround : Tables.Around (r.handle key) (s.world.2.clear h) s.world.2 := ⟨ht, rfl⟩
  rw [henv]
  obtain ⟨o₁, w₁, hfirst, haround₁⟩ :=
    Behaviour.run_observe_around hb hhost hclock hp haround
  obtain ⟨w₂, stamp, happlied, haround₂, hheld⟩ :=
    Behaviour.run_applied_empty (w := (w₁.1, w₁.2.clear h)) hb hhost hclock hp haround₁.clear
      Tables.held_clear
  obtain ⟨o₂, k, second, hsecond, hpayload, hread⟩ :=
    Behaviour.run_observe_of_applied hb hhost hclock happlied haround₂.typed
  refine ⟨o₁, w₁, o₂, w₂, stamp, second, hfirst, happlied, hheld, hread,
    congrArg Prod.fst hsecond, fun u₁ u₂ hu₁ hu₂ hambiguous => ?_⟩
  have hacquire : (a.environment.host.acquire h).run s.world = (.ok (), s.world) := by
    rw [henv]
    rfl
  have hclear : (a.environment.host.clear h).run w₁ = (.ok (), w₁.1, w₁.2.clear h) := by
    rw [henv]
    rfl
  rw [← henv] at hfirst hsecond
  refine ⟨(Observation.update_eq_ok hu₂).1.trans hpayload,
    (endsWith_of_ambiguous hacquire ⟨hfirst, hu₁⟩ hambiguous hclear ⟨hsecond, hu₂⟩).imp ?_ id⟩
  rintro ⟨t, hrun, hworld, hhistory, hcounted⟩
  refine ⟨t, hrun, ?_, fun slot hslot => ?_, ?_, ?_, hcounted⟩
  · rw [hhistory, History.load_append, if_pos rfl, History.load_clear, if_pos rfl,
      List.nil_append]
  · rw [hhistory, History.load_append, if_neg hslot, History.load_clear, if_neg hslot]
  · rw [hworld, Tables.held_kept, hheld, List.filter_singleton, Tables.alive, Bool.cond_decide]
  · rw [hworld]
    exact (haround₂.kept hb second).rest

/-- A sum that was added to another one is added once more, to nothing. -/
theorem clash_leaves_no_residue_of_sum :
    let config : Config := ⟨.ofInt 10 (by decide), .ofInt 1000 (by decide)⟩
    let r : Rule := ⟨.reducing, .whole (.ofInt 10 (by decide))⟩
    let tables : Tables := Tables.empty.writeAt (r.handle "k") (-2) (.replace (.int 5))
    let earlier : Update := ⟨.raw (.int 5), ⟨-10, -2, by decide⟩⟩
    let history : History := History.empty.append ⟨"k", r.id⟩ earlier
    let s : Session (Nat × Tables) := .start (0, tables) .lenient history config
    let u : Update := ⟨.raw (.int 7), ⟨6, 11, by decide⟩⟩
    ∃ a, make [r] config (Behaviour.faithful.onReadings Int.ofNat) = .ok a ∧
      ∃ o t, (a.evaluate r "k" (.raw (.int 7))).run s = (.ok ⟨"k", r, [], o⟩, t) ∧
        LeavesOne r "k" u [(.replace (.int 7), 9)] s t := by
  intro config r tables earlier history s u
  let env := Behaviour.faithful.onReadings Int.ofNat
  obtain ⟨a, ha⟩ : ∃ a, make [r] config env = .ok a := ⟨_, rfl⟩
  obtain ⟨-, hlifetime, henv⟩ := make_eq_ok ha
  have hclock : ∀ n, ∃ now n', (Clock.ofReadings Int.ofNat).run n = (.ok now, n') :=
    fun n => ⟨_, _, rfl⟩
  have htyped : tables.Typed := Tables.typed_empty.writeAt _ _ (Json.isWhole_int 5)
  obtain ⟨o₁, w₁, o₂, w₂, stamp, second, hfirst, happlied, hheld, hsecond, hretried, hleft⟩ :=
    clash_leaves_no_residue "k" (p := u.payload) (s := s) henv hclock hclock ⟨_, rfl, rfl⟩
      (rfl : r.kind.Accepts u.payload) htyped
  rw [henv] at hfirst happlied hretried
  have hfirst' : (r.observe env (r.handle "k") u.payload).run s.world =
      (.ok ⟨0, .plain (.int 5), u.payload, .plain (.int 12), 5⟩, 6,
        tables.writeAt (r.handle "k") 3 (.replace (.int 12))) := rfl
  cases hfirst'.symm.trans hfirst
  have happlied' : (r.applied env (r.handle "k") u.payload).run (6, .empty) =
      (.ok (), 10, Tables.empty.writeAt (r.handle "k") 9 (.replace (.int 7))) := rfl
  cases happlied'.symm.trans happlied
  cases hheld
  cases hsecond
  have hretried' : ((r.observe env (r.handle "k") u.payload).run (6, .empty)).1 =
      .ok ⟨6, .plain .null, u.payload, .plain (.int 7), 11⟩ := rfl
  cases hretried'.symm.trans hretried
  have hdetector : a.detector = ⟨10, by decide⟩ := Detector.eq_of_lifetime_eq hlifetime
  have hambiguous : a.detector.isAmbiguous ⟨0, 5, by decide⟩
      (windows (history.load ⟨"k", r.id⟩)) = true := by
    rw [hdetector]
    decide
  obtain ⟨-, hends⟩ := hleft ⟨u.payload, 0, 5, by decide⟩ u rfl rfl hambiguous
  obtain ⟨t, hrun, hone⟩ := hends.returns rfl (Statistics.bounded_start _ _) (Nat.le_refl _)
    (Statistics.lt_capacity (k := 1) (by decide) (by decide))
  exact ⟨a, ha, _, t, hrun, hone⟩

end Auditor
end ExpiryAudit
