import ExpiryAudit.Proofs.TracedHosts
import ExpiryAudit.Proofs.Serving

/-!
# Acts side by side

Two acts over different states go together if from related states they come to related
results, or to the same fault, and leave related states. They may fall apart only when one of
them fails with a fault of a known sort. A cycle of reading and updating goes together on two
hosts that oblige: it differs in what was read, and in the amounts that a running sum writes.
-/
namespace ExpiryAudit

namespace Act

variable {σ τ α β γ δ : Type}

/-- What two acts have come to. -/
inductive Ended (R : σ → τ → Prop) (V : α → β → Prop) (E : Fault → Prop) :
    Except Fault α × σ → Except Fault β × τ → Prop
  | returned {x : α} {y : β} {s : σ} {t : τ} (result : V x y) (state : R s t) :
      Ended R V E (.ok x, s) (.ok y, t)
  | failed {f : Fault} {s : σ} {t : τ} (state : R s t) : Ended R V E (.error f, s) (.error f, t)
  | left {f : Fault} {s : σ} {other : Except Fault β × τ} (fault : E f) :
      Ended R V E (.error f, s) other
  | right {f : Fault} {t : τ} {other : Except Fault α × σ} (fault : E f) :
      Ended R V E other (.error f, t)

theorem Ended.mono {R : σ → τ → Prop} {V W : α → β → Prop} {E : Fault → Prop}
    {left : Except Fault α × σ} {right : Except Fault β × τ} (h : Ended R V E left right)
    (hVW : ∀ x y, V x y → W x y) : Ended R W E left right := by
  cases h with
  | returned result state => exact .returned (hVW _ _ result) state
  | failed state => exact .failed state
  | left fault => exact .left fault
  | right fault => exact .right fault

/-- From related states the two acts come to related results or to one fault in related states,
unless one of them fails with a fault of the sort. -/
def Together (R : σ → τ → Prop) (V : α → β → Prop) (E : Fault → Prop) (a : Act σ α)
    (b : Act τ β) : Prop := ∀ s t, R s t → Ended R V E (a.run s) (b.run t)

namespace Together

variable {R : σ → τ → Prop} {V : α → β → Prop} {W : γ → δ → Prop} {E : Fault → Prop}
  {a : Act σ α} {b : Act τ β}

theorem mono {V' : α → β → Prop} (h : Together R V E a b) (hV : ∀ x y, V x y → V' x y) :
    Together R V' E a b := fun s t hst => (h s t hst).mono hV

theorem pure {x : α} {y : β} (h : V x y) : Together R V E (Pure.pure x) (Pure.pure y) :=
  fun _ _ hst => .returned h hst

/-- The same result or fault on both sides. -/
theorem lift (x : Except Fault α) :
    Together R (fun y z => y = z ∧ x = .ok y) E (Act.lift x) (Act.lift x) := by
  intro s t hst
  rw [run_lift, run_lift]
  cases x with
  | ok y => exact .returned ⟨rfl, rfl⟩ hst
  | error f => exact .failed hst

/-- Results on both sides. -/
theorem lift_ok {x : Except Fault α} {y : Except Fault β} {u : α} {v : β} (hx : x = .ok u)
    (hy : y = .ok v) : Together R (fun u' v' => u' = u ∧ v' = v) E (Act.lift x) (Act.lift y) := by
  intro s t hst
  rw [run_lift, run_lift, hx, hy]
  exact .returned ⟨rfl, rfl⟩ hst

theorem modify {f : σ → σ} {g : τ → τ} (h : ∀ s t, R s t → R (f s) (g t)) :
    Together R (fun _ _ => True) E (Act.modify f) (Act.modify g) :=
  fun s t hst => .returned trivial (h s t hst)

/-- Acts that change nothing of what is related go together, if they fail in one way only. -/
theorem of_keeps (ha : ∀ t, Keeps (R · t) a) (hb : ∀ s, Keeps (R s) b)
    (hleft : ∀ s f s', run a s = (.error f, s') → E f)
    (hright : ∀ t f t', run b t = (.error f, t') → E f) :
    Together R (fun _ _ => True) E a b := by
  intro s t hst
  cases hrun : a.run s with
  | mk result s' =>
    cases hrun' : b.run t with
    | mk result' t' =>
      cases result with
      | error f => exact .left (hleft s f s' hrun)
      | ok x =>
        cases result' with
        | error f => exact .right (hright t f t' hrun')
        | ok y => exact .returned trivial ((hb s').of_run hrun' ((ha t).of_run hrun hst))

/-- What the first acts have come to decides what the second ones start from. -/
theorem bind {f : α → Act σ γ} {g : β → Act τ δ} (h : Together R V E a b)
    (hnext : ∀ x y, V x y → Together R W E (f x) (g y)) : Together R W E (a >>= f) (b >>= g) := by
  intro s t hst
  have hended := h s t hst
  revert hended
  cases ha : a.run s with
  | mk result s' =>
    cases hb : b.run t with
    | mk result' t' =>
      intro hended
      cases hended with
      | returned result state =>
        rw [run_bind_ok ha, run_bind_ok hb]
        exact hnext _ _ result s' t' state
      | failed state =>
        rw [run_bind_error ha, run_bind_error hb]
        exact .failed state
      | left fault =>
        rw [run_bind_error ha]
        exact .left fault
      | right fault =>
        rw [run_bind_error hb]
        exact .right fault

end Together
end Act

/-! ## Worlds with two hosts -/

/-- The world of a clock and of a host whose calls are recorded. -/
abbrev Traced (κ η : Type) : Type := κ × (η × List HostCall)

variable {κ η θ : Type}

/-- A clock and a host whose calls are recorded. -/
def Environment.traced (clock : Act κ Int) (host : Host η) : Environment (Traced κ η) :=
  .apart clock host.traced

namespace Traced

/-- An act of the host, with the call that it answers. -/
def calling {α : Type} (call : HostCall) (a : Act η α) : Act (Traced κ η) α :=
  (a.noting call).within (·.2) fun w s => (s.1, w)

/-- The calls so far. -/
abbrev calls (s : Traced κ η) : List HostCall := s.2.2

/-- Two worlds with clocks in one state, and hosts that have seen the same calls. -/
structure Beside (I : η → Prop) (J : θ → Prop) (s : Traced κ η) (t : Traced κ θ) : Prop where
  clock : s.1 = t.1
  calls : s.calls.map HostCall.masked = t.calls.map HostCall.masked
  left : I s.2.1
  right : J t.2.1

namespace Beside

variable {I : η → Prop} {J : θ → Prop} {clock : Act κ Int} {g : Host η} {h : Host θ}
  {E : Fault → Prop} {α β : Type}

/-- Both clocks read the same. -/
theorem now : Act.Together (Beside I J) (fun n m : Int => n = m) E
    (Environment.traced clock g).now (Environment.traced clock h).now := by
  rintro ⟨k, s⟩ ⟨_, t⟩ ⟨rfl, hcalls, hI, hJ⟩
  have hleft : (Environment.traced clock g).now.run (k, s) =
      ((clock.run k).1, (clock.run k).2, s) := rfl
  have hright : (Environment.traced clock h).now.run (k, t) =
      ((clock.run k).1, (clock.run k).2, t) := rfl
  rw [hleft, hright]
  cases (clock.run k).1 with
  | ok n => exact .returned rfl ⟨rfl, hcalls, hI, hJ⟩
  | error f => exact .failed ⟨rfl, hcalls, hI, hJ⟩

/-- Two hosts that answer a call go together. -/
theorem call {a : Act η α} {b : Act θ β} {c d : HostCall} {A : α → Prop} {B : β → Prop}
    (ha : Act.Returns I a fun x s => A x ∧ I s) (hb : Act.Returns J b fun y t => B y ∧ J t)
    (hcall : c.masked = d.masked) :
    Act.Together (Beside (κ := κ) I J) (fun x y => A x ∧ B y) E
      (calling c a) (calling d b) := by
  rintro ⟨k, s, cs⟩ ⟨_, t, ds⟩ ⟨rfl, hcalls, hI, hJ⟩
  obtain ⟨x, s', hrun, hx, hs'⟩ := ha s hI
  obtain ⟨y, t', hrun', hy, ht'⟩ := hb t hJ
  simp only [calling, Act.run_within, Act.run_noting, hrun, hrun']
  refine .returned ⟨hx, hy⟩ ⟨rfl, ?_, hs', ht'⟩
  rw [List.map_append, List.map_append, hcalls, List.map_singleton, List.map_singleton, hcall]

/-- Two hosts that answer a call with nothing in particular. -/
theorem done {a : Act η Unit} {b : Act θ Unit} {c d : HostCall} (ha : Act.Returns I a fun _ => I)
    (hb : Act.Returns J b fun _ => J) (hcall : c.masked = d.masked) :
    Act.Together (Beside (κ := κ) I J) (fun _ _ => True) E
      (calling c a) (calling d b) :=
  (call (ha.mono fun _ _ hs => ⟨trivial, hs⟩) (hb.mono fun _ _ hs => ⟨trivial, hs⟩) hcall).mono
    fun _ _ _ => trivial

end Beside
end Traced

/-! ## A cycle -/

/-- Two observations of a payload in one window, with reads that are values. -/
structure Observation.Twins (p : Payload) (o o' : Observation) : Prop where
  update : o.update = o'.update
  left : ∀ u, o.update = .ok u → o.Complete p
  right : ∀ u, o'.update = .ok u → o'.Complete p

namespace Rule

variable {I : η → Prop} {J : θ → Prop} {clock : Act κ Int} {g : Host η} {h : Host θ}
  {E : Fault → Prop} {r : Rule} {key : Text} {p : Payload}

section Cycle

variable (hg : g.Obliges I) (hh : h.Obliges J) (hwhole : (r.handle key).IsWhole)

include hg hh hwhole

theorem together_read :
    Act.Together (Traced.Beside I J) (fun x y => (∃ v, x = .plain v) ∧ ∃ w, y = .plain w) E
      (r.read (Environment.traced clock g).host (r.handle key))
      (r.read (Environment.traced clock h).host (r.handle key)) := by
  refine (Traced.Beside.call (hg.read _ hwhole) (hh.read _ hwhole) rfl).bind fun v w hvw => ?_
  refine (Act.Together.lift_ok hvw.1.observed_ok hvw.2.observed_ok).mono ?_
  rintro _ _ ⟨rfl, rfl⟩
  exact ⟨⟨v, rfl⟩, ⟨w, rfl⟩⟩

/-- Only a running sum is written in another amount. -/
theorem together_apply :
    Act.Together (Traced.Beside I J) (fun _ _ => True) E
      (r.apply (Environment.traced clock g).host (r.handle key) p)
      (r.apply (Environment.traced clock h).host (r.handle key) p) := by
  have hwrite : ∀ c : Change, c.IsWhole → Act.Together (Traced.Beside I J) (fun _ _ => True) E
      ((Environment.traced clock g).host.write (r.handle key) c)
      ((Environment.traced clock h).host.write (r.handle key) c) := fun c hc =>
    Traced.Beside.done (hg.write _ c hwhole hc) (hh.write _ c hwhole hc) rfl
  unfold apply
  cases hk : r.kind with
  | value =>
    refine (Act.Together.lift _).bind ?_
    rintro n _ ⟨rfl, -⟩
    exact hwrite _ (Json.isWhole_int n)
  | list =>
    refine (Act.Together.lift _).bind ?_
    rintro n _ ⟨rfl, -⟩
    exact hwrite _ trivial
  | map =>
    refine (Act.Together.lift _).bind ?_
    rintro e _ ⟨rfl, -⟩
    exact hwrite _ trivial
  | reducing =>
    refine (Act.Together.lift _).bind ?_
    rintro n _ ⟨rfl, -⟩
    refine (Traced.Beside.call (hg.read _ hwhole) (hh.read _ hwhole) rfl).bind ?_
    rintro v w ⟨hv, hw⟩
    have hname : (r.handle key).name = RuleKind.reducing.id := congrArg RuleKind.id hk
    have hsum := addTo_eq_ok (hv.sum hk) n
    have hsum' := addTo_eq_ok (hw.sum hk) n
    refine (Act.Together.lift_ok hsum hsum').bind ?_
    rintro _ _ ⟨rfl, rfl⟩
    exact Traced.Beside.done (hg.write _ _ hwhole (Json.isWhole_int _))
      (hh.write _ _ hwhole (Json.isWhole_int _)) (HostCall.masked_write_sum hname _ _)

/-- The window and the payload of a cycle do not depend on the host. -/
theorem together_observe :
    Act.Together (Traced.Beside I J) (Observation.Twins p) E
      (r.observe (Environment.traced clock g) (r.handle key) p)
      (r.observe (Environment.traced clock h) (r.handle key) p) := by
  refine Traced.Beside.now.bind ?_
  rintro before _ rfl
  refine (together_read hg hh hwhole).bind ?_
  rintro _ _ ⟨⟨v, rfl⟩, ⟨w, rfl⟩⟩
  refine (together_apply hg hh hwhole).bind fun _ _ _ => ?_
  refine (together_read hg hh hwhole).bind ?_
  rintro _ _ ⟨⟨v', rfl⟩, ⟨w', rfl⟩⟩
  refine Traced.Beside.now.bind ?_
  rintro after _ rfl
  exact .pure ⟨rfl, fun u hu => ⟨rfl, ⟨u, hu⟩, ⟨v, rfl⟩, ⟨v', rfl⟩⟩,
    fun u hu => ⟨rfl, ⟨u, hu⟩, ⟨w, rfl⟩, ⟨w', rfl⟩⟩⟩

end Cycle
end Rule
end ExpiryAudit
