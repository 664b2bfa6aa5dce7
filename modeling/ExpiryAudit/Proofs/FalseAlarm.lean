import ExpiryAudit.Proofs.UnbrokenRuns

/-!
# False alarms

Against a store that drops every entry when its lifetime has passed, an evaluation
without a reset has no line, and one with a reset has a line exactly if the write of the
second attempt had expired when it was read again.
-/
namespace ExpiryAudit

/-! ## Stamps within unambiguous windows -/

section Apart

variable {lifetime : Int} {updates stamps : List Update} {c : Window} {now instant : Int}

/-- At all instants of a window that is apart from it an update lasts exactly as long as
its stamp. -/
theorem Window.Apart.lasts_eq {w s : Window} (h : w.Apart lifetime c)
    (hbefore : w.before ≤ s.before) (hafter : s.after ≤ w.after) (hnow : c.before ≤ now ∧ now ≤ c.after)
    (hinstant : c.before ≤ instant ∧ instant ≤ c.after) :
    w.lasts lifetime now = s.lasts (lifetime - 1) instant := by
  have hle := s.before_le_after
  unfold Window.Apart at h
  unfold Window.lasts
  refine decide_eq_decide.2 ?_
  omega

theorem seen_eq_of_apart (hstamped : List.Forall₂ Update.Stamped updates stamps)
    (hapart : ∀ u ∈ updates, u.window.Apart lifetime c) (hnow : c.before ≤ now ∧ now ≤ c.after)
    (hinstant : c.before ≤ instant ∧ instant ≤ c.after) :
    updates.map (Expected.seen lifetime now) =
      stamps.map (Expected.seen (lifetime - 1) instant) := by
  induction hstamped with
  | nil => rfl
  | cons hu _ ih =>
    obtain ⟨hfirst, hrest⟩ := List.forall_mem_cons.1 hapart
    rw [List.map_cons, List.map_cons, ih hrest]
    refine congrArg (· :: _) (Prod.ext hu.payload.symm ?_)
    exact hfirst.lasts_eq hu.before_le hu.le_after hnow hinstant

/-- The same sum, with the last stamp within the last window. -/
inductive SameTotal : Option (Int × Window) → Option (Int × Window) → Prop
  | none : SameTotal none none
  | some {w s : Window} (n : Int) : w.before ≤ s.before → s.after ≤ w.after →
      SameTotal (some (n, w)) (some (n, s))

theorem SameTotal.left_eq {total total' : Option (Int × Window)} (h : SameTotal total total')
    (hapart : ∀ x ∈ total, x.2.Apart lifetime c) (hnow : c.before ≤ now ∧ now ≤ c.after)
    (hinstant : c.before ≤ instant ∧ instant ≤ c.after) :
    Expected.left lifetime now total = Expected.left (lifetime - 1) instant total' := by
  cases h with
  | none => rfl
  | @some w s n hbefore hafter =>
    have hlasts := (hapart _ rfl).lasts_eq hbefore hafter hnow hinstant
    simp only [Expected.left, Option.filter_some, hlasts]
    cases s.lasts (lifetime - 1) instant <;> rfl

/-- With windows that are apart from each other, sums restart where those of the stamps do. -/
theorem left_foldl_eq (hstamped : List.Forall₂ Update.Stamped updates stamps)
    (hpairs : updates.Pairwise fun u v => u.window.Apart lifetime v.window)
    (hapart : ∀ u ∈ updates, u.window.Apart lifetime c) (hnow : c.before ≤ now ∧ now ≤ c.after)
    (hinstant : c.before ≤ instant ∧ instant ≤ c.after) {total total' : Option (Int × Window)}
    (htotal : SameTotal total total') (hfirst : ∀ x ∈ total, x.2.Apart lifetime c)
    (hnext : ∀ x ∈ total, ∀ u ∈ updates, x.2.Apart lifetime u.window) :
    Expected.left lifetime now (updates.foldl (Expected.add lifetime) total) =
      Expected.left (lifetime - 1) instant (stamps.foldl (Expected.add (lifetime - 1)) total') := by
  induction hstamped generalizing total total' with
  | nil => exact htotal.left_eq hfirst hnow hinstant
  | @cons u s rest rest' hu _ ih =>
    obtain ⟨hpair, hpairs⟩ := List.pairwise_cons.1 hpairs
    obtain ⟨hu', hrest⟩ := List.forall_mem_cons.1 hapart
    have hs := s.window.before_le_after
    have hle := hu.le_after
    have hleft := htotal.left_eq (fun x hx => hnext x hx u List.mem_cons_self)
      ⟨Int.le_refl _, u.window.before_le_after⟩ ⟨hu.before_le, by omega⟩
    rw [List.foldl_cons, List.foldl_cons]
    refine ih hpairs hrest ?_ ?_ ?_
    · rw [Expected.add, Expected.add, ← hleft, hu.payload]
      exact .some _ hu.before_le hu.le_after
    · rintro x ⟨⟩
      exact hu'
    · rintro x ⟨⟩
      exact hpair

/-- A running sum is the sum of the stamps at every instant of a window that is apart from
all updates. -/
theorem sum_eq_of_apart (hstamped : List.Forall₂ Update.Stamped updates stamps)
    (hpairs : updates.Pairwise fun u v => u.window.Apart lifetime v.window)
    (hapart : ∀ u ∈ updates, u.window.Apart lifetime c) (hnow : c.before ≤ now ∧ now ≤ c.after)
    (hinstant : c.before ≤ instant ∧ instant ≤ c.after) :
    Expected.sum lifetime updates now = Expected.sum (lifetime - 1) stamps instant :=
  left_foldl_eq hstamped hpairs hapart hnow hinstant .none (fun _ h => nomatch h)
    fun _ h => nomatch h

/-- A rule and a store that has stamped the updates have the same to show at all instants of
a window that is apart from all updates. -/
theorem shows_iff_of_apart {k : RuleKind} {v : Json}
    (hstamped : List.Forall₂ Update.Stamped updates stamps)
    (hpairs : updates.Pairwise fun u v => u.window.Apart lifetime v.window)
    (hapart : ∀ u ∈ updates, u.window.Apart lifetime c) (hnow : c.before ≤ now ∧ now ≤ c.after)
    (hinstant : c.before ≤ instant ∧ instant ≤ c.after) :
    k.Shows lifetime updates now v ↔ k.Shows (lifetime - 1) stamps instant v :=
  RuleKind.shows_congr (seen_eq_of_apart hstamped hapart hnow hinstant) fun _ =>
    sum_eq_of_apart hstamped hpairs hapart hnow hinstant

/-- From its stamp to the end of its window an unambiguous update is shown as well. -/
theorem shows_append_iff_of_apart {k : RuleKind} {v : Json} {u stamp : Update}
    (hstamped : List.Forall₂ Update.Stamped updates stamps)
    (hpairs : updates.Pairwise fun u v => u.window.Apart lifetime v.window)
    (hapart : ∀ x ∈ updates, x.window.Apart lifetime u.window)
    (hshort : u.window.after < u.window.before + lifetime) (hu : u.Stamped stamp)
    (hstamp : stamp.window.after ≤ instant) (hinstant : instant ≤ u.window.after) :
    k.Shows lifetime (updates ++ [u]) u.window.after v ↔
      k.Shows (lifetime - 1) (stamps ++ [stamp]) instant v := by
  have hle := u.window.before_le_after
  have hle' := stamp.window.before_le_after
  have hbefore := hu.before_le
  have hafter := hu.le_after
  -- The update has expired neither for its rule nor for the store.
  have hlasts : u.window.lasts lifetime u.window.after = true :=
    u.window.lasts_after (by omega)
  have hlasts' : stamp.window.lasts (lifetime - 1) instant = true :=
    decide_eq_true (by omega)
  refine RuleKind.shows_congr ?_ fun _ => ?_
  · rw [List.map_append, List.map_append,
      seen_eq_of_apart hstamped hapart ⟨hle, Int.le_refl _⟩ ⟨by omega, hinstant⟩]
    simp only [List.map_singleton, Expected.seen, hlasts, hlasts', hu.payload]
  · rw [Expected.sum_append, Expected.sum_append, hlasts, hlasts', hu.payload,
      sum_eq_of_apart hstamped hpairs hapart ⟨Int.le_refl _, hle⟩ ⟨hbefore, by omega⟩]

end Apart

namespace Auditor

variable {a : Auditor (Nat × Tables)} {r : Rule} {v : Verification} {u stamp : Update}
  {stamps : List Update} {first second : Int} {before after : Json} {holds : Bool}

/-- A store that drops what has expired keeps what is written to it. -/
theorem keeping_faithful {r : Rule} {lifetime : Int} (h : r.lifetime.IsWhole lifetime) :
    Behaviour.faithful.Keeping r lifetime where
  forgets := fun c => by cases c <;> rfl
  lifetime := fun _ => h

end Auditor
end ExpiryAudit
