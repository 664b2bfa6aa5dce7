import ExpiryAudit.Proofs.Evaluation
import ExpiryAudit.Proofs.SideBySide

/-!
# How often host and clock are used

An attempt writes once, between two readings of the clock. An evaluation opens one handle and
makes one attempt, or it clears the handle after the first attempt and makes a second one. This is
counted by any meter that runs with the calls, such as a list of them.
-/
namespace ExpiryAudit

/-- How often handles have been opened, written and cleared and the clock has been read. -/
structure Usage where
  opens : Nat
  writes : Nat
  clears : Nat
  readings : Nat

namespace Usage

/-- One more call of the host. Reads are not counted. -/
def call (u : Usage) : HostCall → Usage
  | .acquire _ => { u with opens := u.opens + 1 }
  | .read _ => u
  | .write _ _ => { u with writes := u.writes + 1 }
  | .clear _ => { u with clears := u.clears + 1 }

/-- One more reading of the clock. -/
def reading (u : Usage) : Usage := { u with readings := u.readings + 1 }

/-- One more attempt. -/
def attempt (u : Usage) : Usage := { u with writes := u.writes + 1, readings := u.readings + 2 }

/-- More updates, some of which have clashed and were applied twice. -/
def add (u : Usage) (updates clashes : Nat) : Usage where
  opens := u.opens + updates
  writes := u.writes + (updates + clashes)
  clears := u.clears + clashes
  readings := u.readings + 2 * (updates + clashes)

theorem add_add (u : Usage) (m n m' n' : Nat) :
    (u.add m n).add m' n' = u.add (m + m') (n + n') := by
  simp only [add, Usage.mk.injEq]
  omega

end Usage

variable {σ : Type}

/-- Every act that succeeds is counted. -/
structure Environment.Metered (env : Environment σ) (usage : σ → Usage) : Prop where
  acquire : ∀ {h w x w'}, (env.host.acquire h).run w = (.ok x, w') →
    usage w' = (usage w).call (.acquire h)
  read : ∀ {h w x w'}, (env.host.read h).run w = (.ok x, w') →
    usage w' = (usage w).call (.read h)
  write : ∀ {h c w x w'}, (env.host.write h c).run w = (.ok x, w') →
    usage w' = (usage w).call (.write h c)
  clear : ∀ {h w x w'}, (env.host.clear h).run w = (.ok x, w') →
    usage w' = (usage w).call (.clear h)
  now : ∀ {w x w'}, env.now.run w = (.ok x, w') → usage w' = (usage w).reading

namespace Environment.Metered

variable {env : Environment σ} {usage : σ → Usage} {r : Rule} {h : Handle} {p : Payload} {w w' : σ}

theorem usage_read (hm : env.Metered usage) {x : Reading}
    (hread : (r.read env.host h).run w = (.ok x, w')) : usage w' = usage w := by
  obtain ⟨v, w₁, hv, hread⟩ := Act.run_bind_eq_ok hread
  obtain ⟨-, rfl⟩ := Act.run_lift_eq_ok hread
  exact hm.read hv

/-- A payload is applied by one write. -/
theorem usage_apply (hm : env.Metered usage)
    (happly : (r.apply env.host h p).run w = (.ok (), w')) :
    usage w' = { usage w with writes := (usage w).writes + 1 } := by
  unfold Rule.apply at happly
  split at happly
  · obtain ⟨n, w₁, hn, happly⟩ := Act.run_bind_eq_ok happly
    obtain ⟨-, rfl⟩ := Act.run_lift_eq_ok hn
    exact hm.write happly
  · obtain ⟨n, w₁, hn, happly⟩ := Act.run_bind_eq_ok happly
    obtain ⟨-, rfl⟩ := Act.run_lift_eq_ok hn
    exact hm.write happly
  · obtain ⟨n, w₁, hn, happly⟩ := Act.run_bind_eq_ok happly
    obtain ⟨-, rfl⟩ := Act.run_lift_eq_ok hn
    exact hm.write happly
  · obtain ⟨n, w₁, hn, happly⟩ := Act.run_bind_eq_ok happly
    obtain ⟨current, w₂, hread, happly⟩ := Act.run_bind_eq_ok happly
    obtain ⟨sum, w₃, hsum, happly⟩ := Act.run_bind_eq_ok happly
    obtain ⟨-, rfl⟩ := Act.run_lift_eq_ok hn
    obtain ⟨-, rfl⟩ := Act.run_lift_eq_ok hsum
    rw [hm.write happly, hm.read hread]
    rfl

theorem usage_observe (hm : env.Metered usage) {o : Observation}
    (ho : (r.observe env h p).run w = (.ok o, w')) : usage w' = (usage w).attempt := by
  obtain ⟨w₁, w₂, w₃, w₄, hbefore, hread, happly, hread', hafter, -⟩ := Rule.run_observe_ok ho
  rw [hm.now hafter, hm.usage_read hread', hm.usage_apply happly, hm.usage_read hread,
    hm.now hbefore]
  rfl

end Environment.Metered

namespace Auditor

variable {a : Auditor σ} {usage : σ → Usage} {r : Rule} {key : Text} {p : Payload}
  {s t : Session σ} {v : Verification}

/-- An evaluation uses the host once more for its update, and once more for a clash. -/
theorem Evaluates.usage_eq (h : a.Evaluates r key p s v t) (hm : a.environment.Metered usage) :
    ∃ clash, s.Counted t clash v.previous.length ∧
      usage t.world = (usage s.world).add 1 clash.toNat := by
  cases h with
  | clean acquired attempt _ _ counted =>
    refine ⟨false, counted, ?_⟩
    rw [hm.usage_observe attempt.observed, hm.acquire acquired]
    rfl
  | retried acquired first _ cleared second _ counted =>
    refine ⟨true, counted, ?_⟩
    rw [hm.usage_observe second.observed, hm.clear cleared, hm.usage_observe first.observed,
      hm.acquire acquired]
    rfl

end Auditor

/-! ## Lists of calls -/

namespace HostCall

def isAcquire : HostCall → Bool
  | acquire _ => true
  | _ => false

def isWrite : HostCall → Bool
  | write _ _ => true
  | _ => false

def isClear : HostCall → Bool
  | clear _ => true
  | _ => false

end HostCall

/-- The clock with the number of its readings. -/
def Act.counted {κ : Type} (clock : Act κ Int) : Act (κ × Nat) Int := fun s =>
  ((clock.run s.1).1, (clock.run s.1).2, s.2 + 1)

namespace Traced

variable {κ η : Type}

def usage (s : Traced (κ × Nat) η) : Usage where
  opens := s.calls.countP HostCall.isAcquire
  writes := s.calls.countP HostCall.isWrite
  clears := s.calls.countP HostCall.isClear
  readings := s.1.2

theorem usage_of_run_calling {α : Type} {call : HostCall} {act : Act η α} {x : α}
    {s t : Traced (κ × Nat) η} (h : (calling call act).run s = (.ok x, t)) :
    usage t = (usage s).call call := by
  obtain ⟨w, hw, rfl⟩ := Act.run_within_eq_ok h
  rw [Act.run_noting] at hw
  obtain ⟨-, rfl⟩ := Prod.mk.inj hw
  simp only [usage, calls, List.countP_append, List.countP_singleton]
  cases call <;> rfl

theorem metered (clock : Act κ Int) (host : Host η) :
    (Environment.traced clock.counted host).Metered usage where
  acquire := usage_of_run_calling
  read := usage_of_run_calling
  write := usage_of_run_calling
  clear := usage_of_run_calling
  now := fun h => by
    obtain ⟨-, rfl⟩ := Prod.mk.inj h
    rfl

end Traced
end ExpiryAudit
