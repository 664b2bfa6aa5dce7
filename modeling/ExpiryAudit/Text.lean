import ExpiryAudit.Text.Unit

/-!
# Texts

A text is a sequence of code points. Most texts are strings, with characters only; what
is read from escapes can also hold halves of pairs. A high half that meets a low one
makes a character with it, so that every text is written in one way.
-/
namespace ExpiryAudit

structure Text where
  points : List Text.Point
  joined : Text.isJoined points = true
  deriving DecidableEq, Repr

namespace Text

/-- The text of any points. -/
def ofPoints (points : List Point) : Text := ⟨joinPairs points, isJoined_joinPairs points⟩

/-- The text of units and of characters that need no units. -/
def ofCodes (codes : List Nat) : Text := ofPoints (codes.map .ofCode)

/-- A string as a text. -/
@[coe] def ofString (s : String) : Text := ⟨s.toList.map .char, isJoined_chars s.toList⟩

instance : Coe String Text := ⟨ofString⟩

instance : Inhabited Text := ⟨ofString ""⟩

/-- Halves that meet are joined. -/
instance : Append Text := ⟨fun s t => ofPoints (s.points ++ t.points)⟩

/-- The text of one point. -/
def single (p : Point) : Text := ⟨[p], rfl⟩

def isEmpty (t : Text) : Bool := t.points.isEmpty

def pointCodes (t : Text) : List Nat := t.points.map Point.code

/-- The characters of a text, with another one in place of each half. -/
def chars (other : Char) (t : Text) : List Char := t.points.map (Point.charOr other)

/-! ## Order -/

/-- Texts have the order of their code points. -/
instance : LT Text := ⟨fun s t => s.pointCodes < t.pointCodes⟩

instance : LE Text := ⟨fun s t => ¬t < s⟩

instance (s t : Text) : Decidable (s < t) :=
  inferInstanceAs (Decidable (s.pointCodes < t.pointCodes))

instance (s t : Text) : Decidable (s ≤ t) := inferInstanceAs (Decidable (¬t < s))

theorem Point.code_injective {p q : Point} (h : p.code = q.code) : p = q := by
  rw [← p.ofCode_code, h, q.ofCode_code]

theorem pointCodes_injective {s t : Text} (h : s.pointCodes = t.pointCodes) : s = t := by
  obtain ⟨ps, hs⟩ := s
  obtain ⟨qs, ht⟩ := t
  obtain rfl : ps = qs := (List.map_inj_right fun _ _ => Point.code_injective).1 h
  rfl

variable {s t u : Text}

theorem lt_irrefl (s : Text) : ¬s < s := List.lt_irrefl s.pointCodes

theorem lt_trans (hst : s < t) (htu : t < u) : s < u := List.lt_trans hst htu

theorem lt_asymm (h : s < t) : ¬t < s := List.lt_asymm h

theorem not_lt : ¬s < t ↔ t ≤ s := Iff.rfl

theorem le_total (s t : Text) : s ≤ t ∨ t ≤ s := List.le_total s.pointCodes t.pointCodes

theorem le_trans (hst : s ≤ t) (htu : t ≤ u) : s ≤ u := List.le_trans hst htu

theorem le_antisymm (hst : s ≤ t) (hts : t ≤ s) : s = t :=
  pointCodes_injective (List.le_antisymm hst hts)

/-! ## Strings -/

theorem ofString_injective {s t : String} (h : ofString s = ofString t) : s = t :=
  String.toList_inj.1 ((List.map_inj_right fun _ _ => Point.char.inj).1 (congrArg points h))

@[simp] theorem ofString_inj {s t : String} : ofString s = ofString t ↔ s = t :=
  ⟨ofString_injective, congrArg ofString⟩

@[simp] theorem isEmpty_ofString (s : String) : (ofString s).isEmpty = s.isEmpty := by
  rw [Bool.eq_iff_iff]
  simp [isEmpty, ofString]

end Text
end ExpiryAudit
