import ExpiryAudit.Proofs.SteadyClock
import ExpiryAudit.Proofs.Writes

/-!
# Hosts that answer

A host that answers every call with a value that its rule can use lets every rule read and
apply the payloads that it takes. With a clock that can be read and never goes backwards,
every cycle gives an update.
-/
namespace ExpiryAudit

variable {σ : Type}

namespace Environment

/-- The host answers every call in the worlds that a run comes to. -/
structure Serves (env : Environment σ) (moves : σ → σ → Prop) (w₀ : σ) : Prop where
  acquire : ∀ h, Act.Returns (env.Comes moves w₀) (env.host.acquire h) fun _ _ => True
  read : ∀ h, Act.Returns (env.Comes moves w₀) (env.host.read h) fun _ _ => True
  write : ∀ h c, c.IsWhole →
    Act.Returns (env.Comes moves w₀) (env.host.write h c) fun _ _ => True
  clear : ∀ h, Act.Returns (env.Comes moves w₀) (env.host.clear h) fun _ _ => True

/-- The host answers every call with a value that can be used, and the clock can be read and
never goes backwards. -/
structure Reliable (env : Environment σ) (moves : σ → σ → Prop) (w₀ : σ) : Prop where
  serves : env.Serves moves w₀
  answers : env.Answers moves w₀
  now : Act.Returns (env.Comes moves w₀) env.now fun _ _ => True
  steady : env.Steady moves w₀

theorem Comes.leads {env : Environment σ} {moves : σ → σ → Prop} {w₀ w : σ}
    (h : env.Comes moves w₀ w) : env.Leads moves w₀ w := by
  induction h with
  | start => exact .start
  | now _ ih => exact ih.now
  | acquire h _ ih => exact ih.acquire h
  | read h _ ih => exact ih.read h
  | @write w h c _ _ ih => exact ih.write h c
  | clear h _ ih => exact ih.clear h
  | move hmove _ ih => exact ih.move hmove

end Environment

/-- An update has been observed between two reads. -/
structure Observation.Complete (o : Observation) (p : Payload) : Prop where
  payload : o.payload = p
  update : ∃ u, o.update = .ok u
  before : ∃ v, o.valueBefore = .plain v
  after : ∃ v, o.valueAfter = .plain v

namespace Rule

variable {env : Environment σ} {moves : σ → σ → Prop} {w₀ : σ} {r : Rule} {key : Text}
  {p : Payload}

section Cycle

variable (hserves : env.Serves moves w₀) (hanswers : env.Answers moves w₀)

include hserves hanswers

/-- A read of the host gives a value that can be used. -/
theorem returns_host_read (h : Handle) :
    Act.Returns (env.Comes moves w₀) (env.host.read h) fun v w =>
      h.Usable v ∧ env.Comes moves w₀ w := by
  intro w hw
  obtain ⟨v, w', hread, -⟩ := hserves.read h w hw
  exact ⟨v, w', hread, hanswers h w w' v hw hread,
    Act.Keeps.of_run (fun _ hw => .read h hw) hread hw⟩

omit hanswers in
theorem returns_host_write (h : Handle) {c : Change} (hc : c.IsWhole) :
    Act.Returns (env.Comes moves w₀) (env.host.write h c) fun _ => env.Comes moves w₀ := by
  intro w hw
  obtain ⟨x, w', hwrite, -⟩ := hserves.write h c hc w hw
  exact ⟨x, w', hwrite, Act.Keeps.of_run (fun _ hw => .write h hc hw) hwrite hw⟩

theorem returns_read :
    Act.Returns (env.Comes moves w₀) (r.read env.host (r.handle key)) fun x w =>
      (∃ v, x = .plain v) ∧ env.Comes moves w₀ w :=
  returns_read_of (returns_host_read hserves hanswers _)

/-- A payload that the rule takes is applied. -/
theorem returns_apply (hp : r.kind.Accepts p) :
    Act.Returns (env.Comes moves w₀) (r.apply env.host (r.handle key) p)
      fun _ => env.Comes moves w₀ :=
  returns_apply_of_usable hp (returns_host_read hserves hanswers _)
    fun _ hc => returns_host_write hserves _ hc

end Cycle

/-- A cycle of a payload that the rule takes gives an update. -/
theorem observes (h : env.Reliable moves w₀) (hp : r.kind.Accepts p) :
    Act.Returns (env.Comes moves w₀) (r.observe env (r.handle key) p) fun o w =>
      o.Complete p ∧ env.Comes moves w₀ w := by
  have hnow : Act.Returns (env.Comes moves w₀) env.now fun _ => env.Comes moves w₀ :=
    (h.now.keeping fun _ hw => .now hw).mono fun _ _ hw => hw.2
  intro w hw
  obtain ⟨o, w', hrun, ⟨hpayload, hbefore, hafter⟩, hw'⟩ :=
    returns_observe_of hp hnow (returns_host_read h.serves h.answers _)
      (fun _ hc => returns_host_write h.serves _ hc) w hw
  exact ⟨o, w', hrun, ⟨hpayload, exists_update_of_observe h.steady hw.leads hrun, hbefore, hafter⟩,
    hw'⟩

end Rule

namespace Behaviour

variable {κ : Type} {hostClock clock : Act κ Int} {moves : κ × Tables → κ × Tables → Prop}

/-- A store that keeps its entries for ages answers every call, if its clock can be read. -/
theorem serves_everlasting (hclock : ∀ c, ∃ now c', hostClock.run c = (.ok now, c'))
    {w₀ : κ × Tables} : (everlasting.onClocks hostClock clock).Serves moves w₀ where
  acquire := fun _ w _ => ⟨(), w, rfl, trivial⟩
  read := by
    intro h w _
    obtain ⟨now, c, hnow⟩ := hclock w.1
    have hwhole : (everlasting.lifetime h).IsWhole (10 ^ 12) := ⟨ages, rfl, rfl⟩
    have hread : ((everlasting.host hostClock).read h).run w = _ := run_read hnow
    rw [Tables.readAt_eq_ok hwhole] at hread
    exact ⟨_, _, hread, trivial⟩
  write := fun h c _ w _ => by
    obtain ⟨now, k, hnow⟩ := hclock w.1
    have hkept : everlasting.forgets c = false := by cases c <;> rfl
    exact ⟨_, _, run_write hkept hnow, trivial⟩
  clear := fun _ _ _ => ⟨(), _, rfl, trivial⟩

/-- A store that keeps its entries for ages is reliable, with a clock whose readings increase. -/
theorem reliable_everlasting {readings : Nat → Int} (hmono : Monotone readings) (n : Nat) :
    (everlasting.onReadings readings).Reliable (fun _ _ => False) (n, .empty) where
  serves := serves_everlasting fun _ => ⟨_, _, rfl⟩
  answers := (typed_onClocks _ _ _ _ fun _ _ h => h.elim).answers
  now := fun _ _ => ⟨_, _, rfl, trivial⟩
  steady := steady_onReadings hmono (fun _ _ h => h.elim) _

end Behaviour
end ExpiryAudit
