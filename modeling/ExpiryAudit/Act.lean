import ExpiryAudit.Fault

/-!
# Acts

An act works on a state, ends with a result or a fault, and leaves a state behind
in both cases. What was done before a fault stays done.
-/
namespace ExpiryAudit

def Act (σ α : Type) : Type := σ → Except Fault α × σ

namespace Act

variable {σ τ α β γ : Type}

def run (a : Act σ α) (s : σ) : Except Fault α × σ := a s

protected def pure (x : α) : Act σ α := fun s => (.ok x, s)

/-- The second act starts from the state that the first one left, unless the
first one failed. -/
protected def bind (a : Act σ α) (f : α → Act σ β) : Act σ β := fun s =>
  match a s with
  | (.ok x, s) => f x s
  | (.error e, s) => (.error e, s)

instance : Monad (Act σ) where
  pure := Act.pure
  bind := Act.bind

def fail (e : Fault) : Act σ α := fun s => (.error e, s)

/-- A result or fault that does not touch the state. -/
def lift (x : Except Fault α) : Act σ α := fun s => (x, s)

def get : Act σ σ := fun s => (.ok s, s)

def modify (f : σ → σ) : Act σ Unit := fun s => (.ok (), f s)

/-- The act on a part of a larger state. -/
def within (part : τ → σ) (replace : σ → τ → τ) (a : Act σ α) : Act τ α := fun t =>
  ((a (part t)).1, replace (a (part t)).2 t)

@[simp] theorem run_pure (x : α) (s : σ) : run (pure x) s = (.ok x, s) := rfl

theorem run_bind (a : Act σ α) (f : α → Act σ β) (s : σ) :
    run (a >>= f) s = match run a s with
      | (.ok x, s) => run (f x) s
      | (.error e, s) => (.error e, s) := rfl

theorem run_bind_ok {a : Act σ α} {f : α → Act σ β} {s t : σ} {x : α}
    (h : run a s = (.ok x, t)) : run (a >>= f) s = run (f x) t := by
  rw [run_bind, h]

theorem run_bind_error {a : Act σ α} {f : α → Act σ β} {s t : σ} {e : Fault}
    (h : run a s = (.error e, t)) : run (a >>= f) s = (.error e, t) := by
  rw [run_bind, h]

@[simp] theorem run_fail (e : Fault) (s : σ) : run (fail e : Act σ α) s = (.error e, s) := rfl

@[simp] theorem run_lift (x : Except Fault α) (s : σ) : run (lift x) s = (x, s) := rfl

@[simp] theorem run_get (s : σ) : run get s = (.ok s, s) := rfl

@[simp] theorem run_modify (f : σ → σ) (s : σ) : run (modify f) s = (.ok (), f s) := rfl

@[simp] theorem run_within (part : τ → σ) (replace : σ → τ → τ) (a : Act σ α) (t : τ) :
    run (within part replace a) t =
      ((run a (part t)).1, replace (run a (part t)).2 t) := rfl

theorem bind_pure_id (a : Act σ α) : Act.bind a (fun x => Act.pure (id x)) = a := by
  funext s
  unfold Act.bind Act.pure
  cases h : a s with
  | mk r t => cases r <;> rfl

theorem bind_assoc (a : Act σ α) (f : α → Act σ β) (g : β → Act σ γ) :
    Act.bind (Act.bind a f) g = Act.bind a fun x => Act.bind (f x) g := by
  funext s
  unfold Act.bind
  cases h : a s with
  | mk r t => cases r <;> rfl

instance : LawfulMonad (Act σ) :=
  LawfulMonad.mk' (Act σ) bind_pure_id (fun _ _ => rfl) bind_assoc

end Act
end ExpiryAudit
