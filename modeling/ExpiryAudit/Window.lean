import ExpiryAudit.Json.Access

/-!
# Windows

The instant at which a store stamps a write is only known to lie between two
readings of the clock. All instants are whole milliseconds.
-/
namespace ExpiryAudit

/-- The instants around one operation. -/
structure Window where
  before : Int
  after : Int
  before_le_after : before ≤ after
  deriving DecidableEq, Repr

namespace Window

/-- Refuses instants that run backwards. -/
def make (before after : Int) : Except Fault Window :=
  if h : before ≤ after then .ok ⟨before, after, h⟩ else .error (.inverted before after)

theorem make_of_le {before after : Int} (h : before ≤ after) :
    make before after = .ok ⟨before, after, h⟩ := dif_pos h

theorem make_eq_ok_iff {before after : Int} {w : Window} :
    make before after = .ok w ↔ w.before = before ∧ w.after = after := by
  unfold make
  split
  · constructor
    · rintro ⟨⟩; exact ⟨rfl, rfl⟩
    · rintro ⟨rfl, rfl⟩; rfl
  · next h =>
    constructor
    · rintro ⟨⟩
    · rintro ⟨rfl, rfl⟩; exact absurd w.before_le_after h

def duration (w : Window) : Int := w.after - w.before

/-- No instant has too many digits. -/
def isWritable (w : Window) : Bool := Text.isWritable w.before && Text.isWritable w.after

/-- Reads the two instants from fields. -/
def ofFields (d : Json) (before after : Text) : Except Fault Window := do
  let b ← (← d.field before).toInt
  let a ← (← d.field after).toInt
  make b a

end Window
end ExpiryAudit
