import ExpiryAudit.Detector
import ExpiryAudit.Proofs.Expectation

/-!
# Unambiguous updates

While an unambiguous update is applied, nothing expires: neither an earlier update nor
the update itself.
-/
namespace ExpiryAudit

/-- The instants of a window. -/
instance : Membership Int Window := ⟨fun w now => w.before ≤ now ∧ now ≤ w.after⟩

instance (w : Window) (now : Int) : Decidable (now ∈ w) :=
  inferInstanceAs (Decidable (w.before ≤ now ∧ now ≤ w.after))

theorem Window.mem_iff {w : Window} {now : Int} : now ∈ w ↔ w.before ≤ now ∧ now ≤ w.after :=
  Iff.rfl

/-- The earlier window moved by the lifetime lies before the later one or after it. -/
def Window.Apart (lifetime : Int) (earlier later : Window) : Prop :=
  earlier.after + lifetime < later.before ∨ later.after < earlier.before + lifetime

namespace Detector

variable {d : Detector} {w : Window} {earlier : List Window}

/-- An unambiguous window is shorter than the lifetime and apart from every earlier one. -/
theorem isAmbiguous_eq_false_iff : d.isAmbiguous w earlier = false ↔
    w.after < w.before + d.lifetime ∧ ∀ e ∈ earlier, e.Apart d.lifetime w := by
  unfold isAmbiguous judge Window.Apart
  by_cases hslow : d.tooSlow w
  · have hle : d.lifetime ≤ w.after - w.before := of_decide_eq_true hslow
    rw [if_pos hslow]
    constructor
    · intro h
      cases h
    · rintro ⟨hshort, -⟩
      omega
  · have hshort : w.after < w.before + d.lifetime := by
      have hle : ¬d.lifetime ≤ w.after - w.before := fun h => hslow (decide_eq_true h)
      omega
    rw [if_neg hslow]
    cases hclash : d.firstClash w earlier with
    | none =>
      refine ⟨fun _ => ⟨hshort, fun e he => ?_⟩, fun _ => rfl⟩
      have hapart := List.find?_eq_none.1 hclash e he
      simp only [clashes, Bool.and_eq_true, decide_eq_true_eq, not_and_or] at hapart
      omega
    | some e =>
      have hmeets := List.find?_some hclash
      simp only [clashes, Bool.and_eq_true, decide_eq_true_eq] at hmeets
      refine ⟨fun h => absurd h Bool.noConfusion, fun h => ?_⟩
      have hapart := h.2 e (List.mem_of_find?_eq_some hclash)
      omega

/-- An earlier update that has expired at some instant of an unambiguous window has
expired at every instant of it. -/
theorem lasts_eq_of_isAmbiguous_eq_false (h : d.isAmbiguous w earlier = false) {e : Window}
    (he : e ∈ earlier) {now : Int} (hbefore : w.before ≤ now) (hafter : now ≤ w.after) :
    e.lasts d.lifetime now = e.lasts d.lifetime w.before := by
  have hapart := (isAmbiguous_eq_false_iff.1 h).2 e he
  unfold Window.Apart at hapart
  have hle := e.before_le_after
  unfold Window.lasts
  refine decide_eq_decide.2 ?_
  omega

end Detector
end ExpiryAudit
