import ExpiryAudit.Proofs.Tracking

/-!
# Clocks that never go backwards

The worlds that acts of host and clock and moves of the world lead to, whatever is
written. A clock is steady if none of its readings is later than one that is taken after
it. Then every later reading has passed the windows of the updates so far.
-/
namespace ExpiryAudit

variable {σ : Type}

namespace Environment

/-- The worlds that acts of host and clock and moves of the world lead to. -/
inductive Leads (env : Environment σ) (moves : σ → σ → Prop) (w₀ : σ) : σ → Prop
  | start : Leads env moves w₀ w₀
  | now {w : σ} : Leads env moves w₀ w → Leads env moves w₀ (env.now.run w).2
  | acquire {w : σ} (h : Handle) :
      Leads env moves w₀ w → Leads env moves w₀ ((env.host.acquire h).run w).2
  | read {w : σ} (h : Handle) :
      Leads env moves w₀ w → Leads env moves w₀ ((env.host.read h).run w).2
  | write {w : σ} (h : Handle) (c : Change) :
      Leads env moves w₀ w → Leads env moves w₀ ((env.host.write h c).run w).2
  | clear {w : σ} (h : Handle) :
      Leads env moves w₀ w → Leads env moves w₀ ((env.host.clear h).run w).2
  | move {w w' : σ} : moves w w' → Leads env moves w₀ w → Leads env moves w₀ w'

/-- No reading of the clock is later than one that is taken after it. -/
def Steady (env : Environment σ) (moves : σ → σ → Prop) (w₀ : σ) : Prop :=
  ∀ w w₁ w₂ w₃ t t', env.Leads moves w₀ w → env.now.run w = (.ok t, w₁) →
    env.Leads moves w₁ w₂ → env.now.run w₂ = (.ok t', w₃) → t ≤ t'

/-- From now on no reading of the clock is before an instant. -/
def Passed (env : Environment σ) (moves : σ → σ → Prop) (t : Int) (w : σ) : Prop :=
  ∀ w₁ w₂ t', env.Leads moves w w₁ → env.now.run w₁ = (.ok t', w₂) → t ≤ t'

variable {env : Environment σ} {moves : σ → σ → Prop} {w₀ w w' : σ}

theorem Leads.trans (h : env.Leads moves w₀ w) (h' : env.Leads moves w w') :
    env.Leads moves w₀ w' := by
  induction h' with
  | start => exact h
  | now _ ih => exact ih.now
  | acquire h _ ih => exact ih.acquire h
  | read h _ ih => exact ih.read h
  | write h c _ ih => exact ih.write h c
  | clear h _ ih => exact ih.clear h
  | move hmove _ ih => exact ih.move hmove

theorem Passed.leads {t : Int} (h : env.Passed moves t w) (hw : env.Leads moves w w') :
    env.Passed moves t w' := fun _ _ _ hlead hnow => h _ _ _ (hw.trans hlead) hnow

theorem Steady.passed (h : env.Steady moves w₀) (hw : env.Leads moves w₀ w) {t : Int}
    (hnow : env.now.run w = (.ok t, w')) : env.Passed moves t w' :=
  fun _ _ _ hlead hnow' => h _ _ _ _ _ _ hw hnow hlead hnow'

end Environment

namespace Rule

variable {env : Environment σ} {moves : σ → σ → Prop} {w₀ : σ} {r : Rule} {h : Handle}
  {p : Payload}

theorem leads_read : Act.Keeps (env.Leads moves w₀) (r.read env.host h) :=
  read_keeps fun _ hw => .read h hw

theorem leads_apply : Act.Keeps (env.Leads moves w₀) (r.apply env.host h p) :=
  apply_keeps (fun _ hw => .read h hw) fun c _ hw => .write h c hw

theorem leads_observe : Act.Keeps (env.Leads moves w₀) (r.observe env h p) :=
  observe_keeps (fun _ hw => .now hw) (fun _ hw => .read h hw) leads_apply

/-- A cycle begins and ends with a reading of the clock. -/
theorem readings_of_observe (moves : σ → σ → Prop) {w w' : σ} {o : Observation}
    (ho : (r.observe env h p).run w = (.ok o, w')) :
    ∃ w₁ w₂, env.now.run w = (.ok o.before, w₁) ∧ env.Leads moves w₁ w₂ ∧
      env.now.run w₂ = (.ok o.after, w') := by
  obtain ⟨w₁, w₂, w₃, w₄, hbefore, hread, happly, hread', hafter, -⟩ := run_observe_ok ho
  have hw₂ : env.Leads moves w₁ w₂ := leads_read.of_run hread .start
  have hw₃ : env.Leads moves w₁ w₃ := leads_apply.of_run happly hw₂
  exact ⟨w₁, w₄, hbefore, leads_read.of_run hread' hw₃, hafter⟩

/-- With a steady clock no window runs backwards. -/
theorem before_le_after_of_observe {w w' : σ} (hsteady : env.Steady moves w₀)
    (hw : env.Leads moves w₀ w) {o : Observation}
    (ho : (r.observe env h p).run w = (.ok o, w')) : o.before ≤ o.after := by
  obtain ⟨w₁, w₂, hbefore, hlead, hafter⟩ := readings_of_observe moves ho
  exact hsteady _ _ _ _ _ _ hw hbefore hlead hafter

theorem exists_update_of_observe {w w' : σ} (hsteady : env.Steady moves w₀)
    (hw : env.Leads moves w₀ w) {o : Observation}
    (ho : (r.observe env h p).run w = (.ok o, w')) : ∃ u, o.update = .ok u :=
  ⟨_, bind_eq_ok (Window.make_of_le (before_le_after_of_observe hsteady hw ho)) rfl⟩

end Rule

namespace Auditor

variable {a : Auditor σ} {moves : σ → σ → Prop} {w₀ : σ}

/-- Whatever is recorded, an auditor leads the world on by acts of host and clock. -/
theorem keeps_leads : a.Keeps (a.environment.Leads moves w₀) fun _ => True where
  acquire := fun h _ hw => .acquire h hw
  clear := fun h _ hw => .clear h hw
  observe := fun _ _ _ _ _ => Rule.leads_observe
  forget := fun _ _ _ => trivial
  record := fun _ _ _ _ _ _ _ => trivial

theorem leads_evaluate (moves : σ → σ → Prop) {r : Rule} (hr : r ∈ a.rules) (key : Text)
    {p : Payload} (hp : r.kind.Accepts p) (s : Session σ) :
    a.environment.Leads moves s.world ((a.evaluate r key p).run s).2.world :=
  (keeps_leads.evaluate hr hp s ⟨.start, trivial⟩).1

/-- What an evaluation that returns has recorded: an update of its payload, after earlier
ones with which it is unambiguous or after none. -/
structure Recorded (a : Auditor σ) (moves : σ → σ → Prop) (r : Rule) (key : Text) (p : Payload)
    (s t : Session σ) (previous : List Update) (u : Update) : Prop where
  payload : u.payload = p
  attempt : ∃ w o, a.environment.Leads moves s.world w ∧ a.Attempt r key p w t.world o u
  unambiguous : previous = [] ∨ previous = s.history.load ⟨key, r.id⟩ ∧
    a.detector.isAmbiguous u.window (windows previous) = false
  load : ∀ slot, t.history.load slot =
    if slot = ⟨key, r.id⟩ then previous ++ [u] else s.history.load slot

theorem Recorded.previous_suffix {r : Rule} {key : Text} {p : Payload} {s t : Session σ}
    {previous : List Update} {u : Update} (h : a.Recorded moves r key p s t previous u) :
    previous <:+ s.history.load ⟨key, r.id⟩ := by
  rcases h.unambiguous with rfl | ⟨rfl, -⟩
  · exact List.nil_suffix
  · exact List.suffix_rfl

theorem Attempt.payload {r : Rule} {key : Text} {p : Payload} {w w' : σ} {o : Observation}
    {u : Update} (h : a.Attempt r key p w w' o u) : u.payload = p := by
  obtain ⟨-, -, -, -, -, -, -, -, -, hp⟩ := Rule.run_observe_ok h.observed
  exact (Observation.update_eq_ok h.update).1.trans hp

theorem Evaluates.recorded {r : Rule} {key : Text} {p : Payload} {s t : Session σ}
    {v : Verification} (h : a.Evaluates r key p s v t) (moves : σ → σ → Prop) :
    ∃ u, a.Recorded moves r key p s t v.previous u := by
  cases h with
  | @clean w₀ o u _ acquired attempt unambiguous history counted =>
    have hw₀ : a.environment.Leads moves s.world w₀ :=
      Act.Keeps.of_run (fun _ hw => .acquire _ hw) acquired .start
    refine ⟨u, attempt.payload, ⟨w₀, o, hw₀, attempt⟩, .inr ⟨rfl, unambiguous⟩, fun slot => ?_⟩
    rw [history, History.load_append]
  | @retried w₀ w₁ w₂ o₁ o₂ u₁ u₂ _ acquired first ambiguous cleared second history counted =>
    have hw₀ : a.environment.Leads moves s.world w₀ :=
      Act.Keeps.of_run (fun _ hw => .acquire _ hw) acquired .start
    have hw₁ : a.environment.Leads moves s.world w₁ :=
      Rule.leads_observe.of_run first.observed hw₀
    have hw₂ : a.environment.Leads moves s.world w₂ :=
      Act.Keeps.of_run (fun _ hw => .clear _ hw) cleared hw₁
    refine ⟨u₂, second.payload, ⟨w₂, o₂, hw₂, second⟩, .inl rfl, fun slot => ?_⟩
    rw [history, History.load_append, History.load_clear, History.load_clear, if_pos rfl]
    split <;> rfl

end Auditor

/-! ## Reference stores -/

namespace Behaviour

variable {κ : Type} {b : Behaviour} {hostClock clock : Act κ Int}

/-! What the clock of the host keeps is kept by every act of the store. -/

section Clocks

variable {C : κ → Prop} (hhost : Act.Keeps C hostClock)

/-- The property is one of the state of the clocks. -/
abbrev OfClocks (C : κ → Prop) (w : κ × Tables) : Prop := C w.1

theorem clocks_acquire (h : Handle) :
    Act.Keeps (OfClocks C) ((b.host hostClock).acquire h) := by
  simp only [host]
  split
  · exact fun _ hs => hs
  · exact Act.Keeps.pure ()

include hhost in
theorem clocks_read (h : Handle) : Act.Keeps (OfClocks C) ((b.host hostClock).read h) := by
  refine Act.Keeps.bind (fun w hw => hhost w.1 hw) fun _ _ _ _ _ s hs => ?_
  simp only [Act.run]
  split <;> exact hs

include hhost in
theorem clocks_write (h : Handle) (c : Change) :
    Act.Keeps (OfClocks C) ((b.host hostClock).write h c) := by
  simp only [host]
  split
  · exact Act.Keeps.pure ()
  · exact Act.Keeps.bind (fun w hw => hhost w.1 hw) fun _ _ _ _ _ =>
      Act.Keeps.modify fun _ hs => hs

/-- What both clocks keep is kept of their state, whatever the store does. -/
theorem of_leads {moves : κ × Tables → κ × Tables → Prop} {w₀ w : κ × Tables}
    (hhost : Act.Keeps C hostClock) (hclock : Act.Keeps C clock)
    (hlead : (b.onClocks hostClock clock).Leads moves w₀ w) (h₀ : C w₀.1)
    (hmoves : ∀ w w', moves w w' → C w.1 → C w'.1) : C w.1 := by
  induction hlead with
  | start => exact h₀
  | @now w _ ih => exact hclock w.1 ih
  | @acquire w h _ ih => exact clocks_acquire h w ih
  | @read w h _ ih => exact clocks_read hhost h w ih
  | @write w h c _ ih => exact clocks_write hhost h c w ih
  | clear h _ ih => exact ih
  | move hmove _ ih => exact hmoves _ _ hmove ih

end Clocks

/-- A clock is steady if its readings increase. -/
theorem steady_onReadings {readings : Nat → Int} (hmono : Monotone readings)
    {moves : Nat × Tables → Nat × Tables → Prop} (hmoves : ∀ w w', moves w w' → w.1 ≤ w'.1)
    (w₀ : Nat × Tables) : (b.onReadings readings).Steady moves w₀ := by
  intro w w₁ w₂ w₃ t t' _ hnow hlead hnow'
  obtain ⟨rfl, rfl⟩ := run_clock hnow
  obtain ⟨rfl, -⟩ := run_clock hnow'
  have hkeeps : Act.Keeps (w.1 + 1 ≤ ·) (Clock.ofReadings readings) :=
    fun _ h => Nat.le_succ_of_le h
  have hlater : w.1 + 1 ≤ w₂.1 := of_leads hkeeps hkeeps hlead (Nat.le_refl _)
    fun w w' hmove h => Nat.le_trans h (hmoves w w' hmove)
  exact hmono (Nat.le_of_succ_le hlater)

end Behaviour
end ExpiryAudit
