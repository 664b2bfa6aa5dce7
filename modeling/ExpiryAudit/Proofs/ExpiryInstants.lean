import ExpiryAudit.Proofs.Ambiguity
import ExpiryAudit.Proofs.Holdings

/-!
# Instants of expiry

A write at an unknown instant of its window expires at an unknown instant: that of the
write moved by the lifetime. An update is ambiguous exactly if one of these instants lies
in its window. Otherwise every entry is gone or alive throughout the window, wherever it
was stamped, and it makes no difference whether an entry is gone at the end of its lifetime
or only after it.
-/
namespace ExpiryAudit

namespace Window

variable {lifetime : Int} {w c : Window}

/-- Windows are apart exactly if no write in the one expires in the other. -/
theorem apart_iff_not_expires : w.Apart lifetime c ↔ ¬∃ written ∈ w, written + lifetime ∈ c := by
  have hw := w.before_le_after
  have hc := c.before_le_after
  simp only [Apart, mem_iff]
  constructor
  · rintro hapart ⟨written, hwritten, hexpires⟩
    omega
  · intro hnone
    by_contra hmeet
    -- The first write that expires no earlier than the other window begins.
    exact hnone ⟨max w.before (c.before - lifetime), by omega, by omega⟩

/-- A write of an apart window has expired throughout the other one, or lives throughout it. -/
theorem Apart.expired_or_alive (h : w.Apart lifetime c) :
    (∀ written ∈ w, ∀ now ∈ c, written + lifetime < now) ∨
      ∀ written ∈ w, ∀ now ∈ c, now < written + lifetime := by
  simp only [mem_iff]
  unfold Apart at h
  refine h.imp ?_ ?_ <;> intros <;> omega

/-- No write of an apart window expires at an instant of the other one. -/
theorem Apart.ne_of_mem (h : w.Apart lifetime c) {written now : Int} (hwritten : written ∈ w)
    (hnow : now ∈ c) : written + lifetime ≠ now := fun heq =>
  apart_iff_not_expires.1 h ⟨written, hwritten, heq ▸ hnow⟩

/-- A window is apart from itself exactly if it is shorter than the lifetime. -/
theorem apart_self_iff (hpos : 0 < lifetime) :
    c.Apart lifetime c ↔ c.after < c.before + lifetime := by
  have hle := c.before_le_after
  unfold Apart
  omega

end Window

namespace Detector

variable {d : Detector} {c : Window} {history : List Window}

/-- A window is unambiguous exactly if it is apart from itself and from all earlier ones. -/
theorem isAmbiguous_eq_false_iff_apart :
    d.isAmbiguous c history = false ↔ ∀ p ∈ c :: history, p.Apart d.lifetime c := by
  rw [isAmbiguous_eq_false_iff, List.forall_mem_cons, Window.apart_self_iff d.lifetime_pos]

theorem isAmbiguous_iff_expires : d.isAmbiguous c history = true ↔
    ∃ p ∈ c :: history, ∃ written ∈ p, written + d.lifetime ∈ c := by
  rw [← Bool.not_eq_false, isAmbiguous_eq_false_iff_apart]
  simp only [Window.apart_iff_not_expires, not_forall, not_not, exists_prop]

end Detector

/-- With stamps that do not expire at the instant of a read, it makes no difference to the
read whether a store drops entries at the end of their lifetime or one instant later. -/
theorem Tables.readAt_eq_of_forall_ne {s late : Setting} (hlate : late.amount = s.amount + 1)
    {h : Handle} {t : Tables} {now : Int} (hne : ∀ e ∈ t.held h, e.2 + s.amount ≠ now) :
    t.readAt .faithful { h with lifetime := .whole s } now =
      t.readAt .faithful { h with lifetime := .whole late } now := by
  have hsame : ∀ e ∈ t.held { h with lifetime := .whole s },
      alive s.amount now e.2 = alive late.amount now e.2 := by
    intro e he
    have hstamp : e.2 + s.amount ≠ now := hne e he
    exact decide_eq_decide.2 (by omega)
  obtain ⟨hshown, hkept⟩ := shown_and_kept_congr hsame
  rw [readAt_eq_ok ⟨s, rfl, rfl⟩, readAt_eq_ok ⟨late, rfl, rfl⟩, hshown, hkept]
  rfl

/-- Ambiguity is exact. An update is ambiguous exactly if an entry that was written at some
instant of an earlier window, or of its own, may expire at an instant of its window. If it
is not, every earlier entry is gone at all instants of the window or alive at all of them,
for all choices of the instant of its write, the entry of the update itself is alive, and a
store that drops entries at the end of their lifetime answers like one that drops them
only after it, which is to say one instant later. -/
theorem Detector.isAmbiguous_iff_expiry_inside (d : Detector) (c : Window) (history : List Window) :
    ExpiryAudit.isAmbiguous d.lifetime c history = .ok (d.isAmbiguous c history) ∧
    (d.isAmbiguous c history = true ↔
      ∃ p ∈ c :: history, ∃ written ∈ p, written + d.lifetime ∈ c) ∧
    (d.isAmbiguous c history = false →
      (∀ p ∈ history, (∀ written ∈ p, ∀ now ∈ c, written + d.lifetime < now) ∨
        ∀ written ∈ p, ∀ now ∈ c, now < written + d.lifetime) ∧
      (∀ written ∈ c, ∀ now ∈ c, now < written + d.lifetime) ∧
      ∀ s late : Setting, s.amount = d.lifetime → late.amount = d.lifetime + 1 →
        (∀ p ∈ c :: history, ∀ written ∈ p, ∀ now ∈ c,
          (Lifetime.whole s).endsBy written now = (Lifetime.whole s).endsBefore written now) ∧
        ∀ (h : Handle) (t : Tables), (∀ e ∈ t.held h, ∃ p ∈ c :: history, e.2 ∈ p) →
          ∀ now ∈ c, t.readAt .faithful { h with lifetime := .whole s } now =
            t.readAt .faithful { h with lifetime := .whole late } now) := by
  refine ⟨?_, isAmbiguous_iff_expires, fun hclean => ?_⟩
  · have hmake : Detector.make d.lifetime = .ok d := dif_pos d.lifetime_pos
    rw [ExpiryAudit.isAmbiguous, hmake]
    rfl
  · have hapart := isAmbiguous_eq_false_iff_apart.1 hclean
    have hne : ∀ p ∈ c :: history, ∀ written ∈ p, ∀ now ∈ c, written + d.lifetime ≠ now :=
      fun p hp written hwritten now hnow => (hapart p hp).ne_of_mem hwritten hnow
    refine ⟨fun p hp => (hapart p (List.mem_cons_of_mem c hp)).expired_or_alive, ?_, ?_⟩
    · intro written hwritten now hnow
      have hshort := (isAmbiguous_eq_false_iff.1 hclean).1
      have hfirst := (Window.mem_iff.1 hwritten).1
      have hlast := (Window.mem_iff.1 hnow).2
      omega
    · intro s late hs hlate
      rw [← hs] at hne hlate
      refine ⟨fun p hp written hwritten now hnow => ?_, fun h t hheld now hnow => ?_⟩
      · have hstamp := hne p hp written hwritten now hnow
        rw [Lifetime.endsBy_whole, Lifetime.endsBefore_whole]
        exact congrArg Except.ok (decide_eq_decide.2 (by omega))
      · refine Tables.readAt_eq_of_forall_ne hlate fun e he => ?_
        obtain ⟨p, hp, hstamp⟩ := hheld e he
        exact hne p hp e.2 hstamp now hnow

end ExpiryAudit
