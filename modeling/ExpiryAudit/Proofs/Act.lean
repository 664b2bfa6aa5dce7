import ExpiryAudit.Session
import Mathlib.Data.List.Forall2

/-!
# Acts taken apart

A result and an act that returns have returned in each of their parts. What every part
of an act keeps is kept by the act, whether it returns or fails.
-/
namespace ExpiryAudit

section Results

variable {α β γ : Type}

theorem eq_ok_of_bind_eq_ok {x : Except Fault α} {f : α → Except Fault β} {y : β}
    (h : x >>= f = .ok y) : ∃ z, x = .ok z ∧ f z = .ok y := by
  cases x with
  | error e => cases h
  | ok z => exact ⟨z, rfl, h⟩

theorem bind_eq_ok {x : Except Fault α} {f : α → Except Fault β} {z : α} {y : β}
    (hx : x = .ok z) (hf : f z = .ok y) : x >>= f = .ok y := by
  rw [hx]
  exact hf

theorem eq_error_of_bind_eq_error {x : Except Fault α} {f : α → Except Fault β} {e : Fault}
    (h : x >>= f = .error e) : x = .error e ∨ ∃ z, x = .ok z ∧ f z = .error e := by
  cases x with
  | error e' =>
    cases h
    exact .inl rfl
  | ok z => exact .inr ⟨z, rfl, h⟩

theorem eq_ok_of_toOption_eq_some {ε : Type} {x : Except ε α} {y : α} (h : x.toOption = some y) :
    x = .ok y := by
  cases x with
  | error e => cases h
  | ok z => exact congrArg Except.ok (Option.some.inj h)

/-- Results of all items of a list are results item by item. -/
theorem mapM_eq_ok_iff {f : α → Except Fault β} {xs : List α} {ys : List β} :
    xs.mapM f = .ok ys ↔ List.Forall₂ (fun x y => f x = .ok y) xs ys := by
  induction xs generalizing ys with
  | nil =>
    rw [List.mapM_nil, List.forall₂_nil_left_iff]
    exact ⟨fun h => (Except.ok.inj h).symm, fun h => h ▸ rfl⟩
  | cons x xs ih =>
    rw [List.mapM_cons, List.forall₂_cons_left_iff]
    constructor
    · intro h
      obtain ⟨y, hy, h⟩ := eq_ok_of_bind_eq_ok h
      obtain ⟨rest, hrest, h⟩ := eq_ok_of_bind_eq_ok h
      cases h
      exact ⟨y, rest, hy, ih.1 hrest, rfl⟩
    · rintro ⟨y, rest, hy, hrest, rfl⟩
      rw [hy, ih.2 hrest]
      rfl

/-- A result of a list comes from one of its items. -/
theorem exists_of_mem_mapM {f : α → Except Fault β} {xs : List α} {ys : List β}
    (h : xs.mapM f = .ok ys) {y : β} (hy : y ∈ ys) : ∃ x ∈ xs, f x = .ok y := by
  replace h := mapM_eq_ok_iff.1 h
  induction h with
  | nil => cases hy
  | cons hfirst _ ih =>
    rcases List.mem_cons.1 hy with rfl | hy
    · exact ⟨_, List.mem_cons_self, hfirst⟩
    · obtain ⟨x, hx, hxy⟩ := ih hy
      exact ⟨x, List.mem_cons_of_mem _ hx, hxy⟩

/-- The results of a list are those of its items. -/
theorem mem_mapM_iff {f : α → Except Fault β} {xs : List α} {ys : List β}
    (h : xs.mapM f = .ok ys) {y : β} : y ∈ ys ↔ ∃ x ∈ xs, f x = .ok y := by
  refine ⟨exists_of_mem_mapM h, ?_⟩
  rintro ⟨x, hx, hy⟩
  replace h := mapM_eq_ok_iff.1 h
  induction h with
  | nil => cases hx
  | cons hfirst _ ih =>
    rcases List.mem_cons.1 hx with rfl | hx
    · exact List.mem_cons.2 (.inl (Except.ok.inj (hy.symm.trans hfirst)))
    · exact List.mem_cons_of_mem _ (ih hx)

/-- A list fails with the fault of the first item that has no result. -/
theorem mapM_eq_error_iff {f : α → Except Fault β} {xs : List α} {e : Fault} :
    xs.mapM f = .error e ↔ ∃ before x after, xs = before ++ x :: after ∧
      (∀ y ∈ before, ∃ z, f y = .ok z) ∧ f x = .error e := by
  constructor
  · intro h
    induction xs with
    | nil => cases h
    | cons x xs ih =>
      rw [List.mapM_cons] at h
      rcases eq_error_of_bind_eq_error h with h | ⟨y, hy, h⟩
      · exact ⟨[], x, xs, rfl, by simp, h⟩
      rcases eq_error_of_bind_eq_error h with h | ⟨ys, -, h⟩
      · obtain ⟨before, x', after, rfl, hbefore, hx'⟩ := ih h
        refine ⟨x :: before, x', after, rfl, ?_, hx'⟩
        exact List.forall_mem_cons.2 ⟨⟨y, hy⟩, hbefore⟩
      · cases h
  · rintro ⟨before, x, after, rfl, hbefore, hx⟩
    induction before with
    | nil =>
      rw [List.nil_append, List.mapM_cons, hx]
      rfl
    | cons y before ih =>
      obtain ⟨⟨z, hz⟩, hrest⟩ := List.forall_mem_cons.1 hbefore
      rw [List.cons_append, List.mapM_cons, hz, ih hrest]
      rfl

/-- A list without results has an item without one. -/
theorem exists_of_mapM_eq_error {f : α → Except Fault β} {xs : List α} {e : Fault}
    (h : xs.mapM f = .error e) : ∃ x ∈ xs, f x = .error e := by
  obtain ⟨before, x, after, rfl, -, hx⟩ := mapM_eq_error_iff.1 h
  exact ⟨x, List.mem_append_right _ List.mem_cons_self, hx⟩

/-- A list with results has one for every item. -/
theorem exists_of_mapM_eq_ok {f : α → Except Fault β} {xs : List α} {ys : List β}
    (h : xs.mapM f = .ok ys) {x : α} (hx : x ∈ xs) : ∃ y, f x = .ok y := by
  replace h := mapM_eq_ok_iff.1 h
  induction h with
  | nil => cases hx
  | cons hfirst _ ih =>
    rcases List.mem_cons.1 hx with rfl | hx
    · exact ⟨_, hfirst⟩
    · exact ih hx

theorem mapM_eq_ok_map {f : α → Except Fault β} {g : α → β} {xs : List α}
    (h : ∀ x ∈ xs, f x = .ok (g x)) : xs.mapM f = .ok (xs.map g) :=
  mapM_eq_ok_iff.2 (List.forall₂_map_right_iff.2 (List.forall₂_same.2 h))

/-- If every item of a list has a result, there is a list of results. -/
theorem exists_mapM_eq_ok {f : α → Except Fault β} {xs : List α}
    (h : ∀ x ∈ xs, ∃ y, f x = .ok y) : ∃ ys, xs.mapM f = .ok ys := by
  induction xs with
  | nil => exact ⟨[], rfl⟩
  | cons x xs ih =>
    obtain ⟨⟨y, hy⟩, hrest⟩ := List.forall_mem_cons.1 h
    obtain ⟨ys, hys⟩ := ih hrest
    exact ⟨y :: ys, mapM_eq_ok_iff.2 (.cons hy (mapM_eq_ok_iff.1 hys))⟩

/-- Results depend on what is looked at in the items of a list, if the results of single
items do. -/
theorem mapM_eq_of_map_eq {f : α → Except Fault β} {look : α → γ} {xs ys : List α}
    (h : xs.map look = ys.map look) (hf : ∀ x y, look x = look y → f x = f y) :
    xs.mapM f = ys.mapM f := by
  induction xs generalizing ys with
  | nil =>
    cases ys with
    | nil => rfl
    | cons y ys => cases h
  | cons x xs ih =>
    cases ys with
    | nil => cases h
    | cons y ys =>
      obtain ⟨hlook, hrest⟩ := List.cons.inj h
      rw [List.mapM_cons, List.mapM_cons, hf x y hlook, ih hrest]

/-- What every step keeps holds in the end. -/
theorem of_foldlM_eq_ok {P : β → Prop} {step : β → α → Except Fault β} {xs : List α}
    (hstep : ∀ x ∈ xs, ∀ s t, step s x = .ok t → P s → P t) {s t : β}
    (h : xs.foldlM step s = .ok t) (hs : P s) : P t := by
  induction xs generalizing s with
  | nil => exact Except.ok.inj h ▸ hs
  | cons x xs ih =>
    obtain ⟨hfirst, hrest⟩ := List.forall_mem_cons.1 hstep
    rw [List.foldlM_cons] at h
    obtain ⟨u, hu, h⟩ := eq_ok_of_bind_eq_ok h
    exact ih hrest h (hfirst s u hu hs)

/-- A state in which an act has failed with a fault that is looked for. -/
theorem exists_error_of_any {x : Except Fault α × γ} {p : Fault → Bool}
    (h : (match x.1 with
      | .error f => p f
      | .ok _ => false) = true) : ∃ f t, x = (.error f, t) ∧ p f = true := by
  obtain ⟨result, t⟩ := x
  cases result with
  | error f => exact ⟨f, t, rfl, h⟩
  | ok y => cases h

end Results

namespace Act

variable {σ τ α β : Type}

/-- Both parts of an act that returns have returned. -/
theorem run_bind_eq_ok {a : Act σ α} {f : α → Act σ β} {s u : σ} {y : β}
    (h : run (a >>= f) s = (.ok y, u)) :
    ∃ x t, run a s = (.ok x, t) ∧ run (f x) t = (.ok y, u) := by
  rw [run_bind] at h
  cases ha : run a s with
  | mk result t =>
    rw [ha] at h
    cases result with
    | error e => cases h
    | ok x => exact ⟨x, t, rfl, h⟩

/-- An act that fails has failed in its first part or in its second one. -/
theorem run_bind_eq_error {a : Act σ α} {f : α → Act σ β} {s u : σ} {e : Fault}
    (h : run (a >>= f) s = (.error e, u)) :
    run a s = (.error e, u) ∨ ∃ x t, run a s = (.ok x, t) ∧ run (f x) t = (.error e, u) := by
  rw [run_bind] at h
  cases ha : run a s with
  | mk result t =>
    rw [ha] at h
    cases result with
    | error e' =>
      cases h
      exact .inl rfl
    | ok x => exact .inr ⟨x, t, rfl, h⟩

/-- What becomes of the result does not change the state. -/
theorem run_bind_pure_snd (a : Act σ α) (f : α → β) (s : σ) :
    (run (a >>= fun x => pure (f x)) s).2 = (run a s).2 := by
  rw [run_bind]
  cases run a s with
  | mk result t => cases result <;> rfl

theorem run_pure_eq_ok {x y : α} {s t : σ} (h : run (pure x) s = (.ok y, t)) : x = y ∧ s = t := by
  rw [run_pure] at h
  cases h
  exact ⟨rfl, rfl⟩

theorem run_lift_eq_ok {x : Except Fault α} {y : α} {s t : σ}
    (h : run (lift x) s = (.ok y, t)) : x = .ok y ∧ s = t := by
  rw [run_lift] at h
  cases h
  exact ⟨rfl, rfl⟩

theorem run_within_eq_ok {part : τ → σ} {replace : σ → τ → τ} {a : Act σ α} {x : α} {t u : τ}
    (h : run (within part replace a) t = (.ok x, u)) :
    ∃ s, run a (part t) = (.ok x, s) ∧ u = replace s t := by
  rw [run_within] at h
  obtain ⟨hx, hu⟩ := Prod.mk.inj h
  exact ⟨_, Prod.ext hx rfl, hu.symm⟩

/-! ## What acts keep -/

/-- Whatever comes of the act, a property of the state is kept. -/
def Keeps (P : σ → Prop) (a : Act σ α) : Prop := ∀ s, P s → P (run a s).2

namespace Keeps

variable {P : σ → Prop}

/-- What is kept holds in the state that the act leaves. -/
theorem of_run {a : Act σ α} (h : Keeps P a) {s t : σ} {x : Except Fault α}
    (hrun : run a s = (x, t)) (hs : P s) : P t := by
  have ht := h s hs
  rwa [hrun] at ht

theorem pure (x : α) : Keeps P (Pure.pure x) := fun _ h => h

theorem lift (x : Except Fault α) : Keeps P (Act.lift x) := fun _ h => h

theorem modify {f : σ → σ} (hf : ∀ s, P s → P (f s)) : Keeps P (Act.modify f) := hf

/-- The second act has to keep the property for results of the first one only. -/
theorem bind {a : Act σ α} {f : α → Act σ β} (ha : Keeps P a)
    (hf : ∀ s x t, run a s = (.ok x, t) → P s → Keeps P (f x)) : Keeps P (a >>= f) := by
  intro s hs
  have ht := ha s hs
  rw [run_bind]
  cases h : run a s with
  | mk result t =>
    rw [h] at ht
    cases result with
    | error e => exact ht
    | ok x => exact hf s x t h hs t ht

/-- An act on a part keeps what does not depend on the part. -/
theorem within {Q : τ → Prop} {part : τ → σ} {replace : σ → τ → τ} {a : Act σ α}
    (hQ : ∀ s t, Q t → Q (replace s t)) : Keeps Q (Act.within part replace a) :=
  fun t ht => hQ _ t ht

end Keeps

/-! ## Acts that return -/

/-- From every state with a property the act returns, with a result and a state that have
another one. -/
def Returns (P : σ → Prop) (a : Act σ α) (Q : α → σ → Prop) : Prop :=
  ∀ s, P s → ∃ x t, run a s = (.ok x, t) ∧ Q x t

namespace Returns

variable {P : σ → Prop}

theorem pure {Q : α → σ → Prop} {x : α} (h : ∀ s, P s → Q x s) : Returns P (Pure.pure x) Q :=
  fun s hs => ⟨x, s, rfl, h s hs⟩

theorem lift {x : Except Fault α} {y : α} (h : x = .ok y) :
    Returns P (Act.lift x) fun z s => z = y ∧ P s :=
  fun s hs => ⟨y, s, by rw [run_lift, h], rfl, hs⟩

theorem mono {R Q : α → σ → Prop} {a : Act σ α} (h : Returns P a R)
    (hQ : ∀ x s, R x s → Q x s) : Returns P a Q := by
  intro s hs
  obtain ⟨x, t, hrun, hx⟩ := h s hs
  exact ⟨x, t, hrun, hQ x t hx⟩

theorem bind {R : α → σ → Prop} {Q : β → σ → Prop} {a : Act σ α} {f : α → Act σ β}
    (ha : Returns P a R) (hf : ∀ x, Returns (R x) (f x) Q) : Returns P (a >>= f) Q := by
  intro s hs
  obtain ⟨x, t, hrun, hx⟩ := ha s hs
  obtain ⟨y, u, hrun', hy⟩ := hf x t hx
  exact ⟨y, u, (run_bind_ok hrun).trans hrun', hy⟩

/-- What an act keeps holds when it has returned. -/
theorem keeping {Q : α → σ → Prop} {a : Act σ α} (h : Returns P a Q) (hkeeps : Keeps P a) :
    Returns P a fun x s => Q x s ∧ P s := by
  intro s hs
  obtain ⟨x, t, hrun, hx⟩ := h s hs
  exact ⟨x, t, hrun, hx, hkeeps.of_run hrun hs⟩

/-- An act that returns with a property keeps it. -/
theorem keeps {a : Act σ α} (h : Returns P a fun _ => P) : Keeps P a := by
  intro s hs
  obtain ⟨x, t, hrun, ht⟩ := h s hs
  rw [hrun]
  exact ht

end Returns

/-! ## Acts that return or fail in known ways -/

/-- From every state with a property the act returns, with a result and a state that have
another one, or it fails with a fault of one sort. -/
def Ends (P : σ → Prop) (a : Act σ α) (Q : α → σ → Prop) (E : Fault → Prop) : Prop :=
  ∀ s, P s → (∃ x t, run a s = (.ok x, t) ∧ Q x t) ∨ ∃ f t, run a s = (.error f, t) ∧ E f

namespace Ends

variable {P : σ → Prop} {E : Fault → Prop}

theorem of_returns {Q : α → σ → Prop} {a : Act σ α} (h : Returns P a Q) : Ends P a Q E :=
  fun s hs => .inl (h s hs)

theorem of_keeps {a : Act σ α} (h : Keeps P a)
    (hfault : ∀ s f t, run a s = (.error f, t) → E f) : Ends P a (fun _ => P) E := by
  intro s hs
  cases hrun : run a s with
  | mk result t =>
    cases result with
    | ok x => exact .inl ⟨x, t, rfl, h.of_run hrun hs⟩
    | error f => exact .inr ⟨f, t, rfl, hfault s f t hrun⟩

theorem pure {Q : α → σ → Prop} {x : α} (h : ∀ s, P s → Q x s) : Ends P (Pure.pure x) Q E :=
  of_returns (Returns.pure h)

theorem bind {R : α → σ → Prop} {Q : β → σ → Prop} {a : Act σ α} {f : α → Act σ β}
    (ha : Ends P a R E) (hf : ∀ x, Ends (R x) (f x) Q E) : Ends P (a >>= f) Q E := by
  intro s hs
  rcases ha s hs with ⟨x, t, hrun, hx⟩ | ⟨e, t, hrun, he⟩
  · rw [run_bind_ok hrun]
    exact hf x t hx
  · exact .inr ⟨e, t, run_bind_error hrun, he⟩

theorem given {C : Prop} {Q : α → σ → Prop} {a : Act σ α} (h : C → Ends P a Q E) :
    Ends (fun s => C ∧ P s) a Q E := fun s hs => h hs.1 s hs.2

/-- What an act fails with is of the sort. -/
theorem of_error {Q : α → σ → Prop} {a : Act σ α} (h : Ends P a Q E) {s t : σ} {f : Fault}
    (hrun : run a s = (.error f, t)) (hs : P s) : E f := by
  rcases h s hs with ⟨x, u, hrun', -⟩ | ⟨e, u, hrun', he⟩
  · cases hrun.symm.trans hrun'
  · cases hrun.symm.trans hrun'
    exact he

end Ends

/-! ## Acts that depend on what is related -/

/-- From related states the act comes to the same result or fault, in states that are related
in another way. -/
def Respects (R Q : σ → σ → Prop) (a : Act σ α) : Prop :=
  ∀ s t, R s t → (run a s).1 = (run a t).1 ∧ Q (run a s).2 (run a t).2

namespace Respects

variable {R S Q : σ → σ → Prop}

/-- Related states that one act leaves are related, and it has come to one result. -/
theorem of_run {a : Act σ α} (h : Respects R Q a) {s t s' t' : σ} {x y : Except Fault α}
    (hs : run a s = (x, s')) (ht : run a t = (y, t')) (hst : R s t) : x = y ∧ Q s' t' := by
  have hboth := h s t hst
  rwa [hs, ht] at hboth

theorem pure (x : α) : Respects R R (Pure.pure x) := fun _ _ h => ⟨rfl, h⟩

theorem lift (x : Except Fault α) : Respects R R (Act.lift x) := fun _ _ h => ⟨rfl, h⟩

/-- A fault of the first act is one of both, so what it leaves has to be related as the second
act would leave it. -/
theorem bind {a : Act σ α} {f : α → Act σ β} (ha : Respects R S a)
    (hf : ∀ x, Respects S Q (f x)) (hQ : ∀ s t, S s t → Q s t) : Respects R Q (a >>= f) := by
  intro s t hst
  rw [run_bind, run_bind]
  cases hs : run a s with
  | mk x s' =>
    cases ht : run a t with
    | mk y t' =>
      obtain ⟨rfl, hst'⟩ := ha.of_run hs ht hst
      cases x with
      | error e => exact ⟨rfl, hQ s' t' hst'⟩
      | ok x => exact hf x s' t' hst'

end Respects
end Act
end ExpiryAudit
