/-!
# Code units and code points

A character past the first plane is written as two units, a high and a low
surrogate. Neither of them is a character of its own: a unit that stands alone is
half of a pair. A code point is a character or such a half.
-/
namespace ExpiryAudit.Text

/-- No character is half of a pair. -/
theorem toNat_lt_or_lt (c : Char) :
    c.toNat < 0xd800 ∨ 0xdfff < c.toNat ∧ c.toNat < 0x110000 := by
  have hvalid := c.valid
  have htoNat : c.toNat = c.val.toNat := rfl
  simp only [UInt32.isValidChar, Nat.isValidChar] at hvalid
  omega

inductive Point where
  | char (c : Char)
  /-- A surrogate that stands alone, counted from the first one on. -/
  | half (place : Fin 0x800)
  deriving DecidableEq, Repr

namespace Point

/-- The first surrogate. -/
def firstHalf : Nat := 0xd800

def code : Point → Nat
  | char c => c.toNat
  | half place => firstHalf + place

/-- The code point of a unit, or of a character that needs no units. -/
def ofCode (n : Nat) : Point :=
  if h : firstHalf ≤ n ∧ n < firstHalf + 0x800 then half ⟨n - firstHalf, by omega⟩
  else char (Char.ofNat n)

theorem ofCode_code (p : Point) : ofCode p.code = p := by
  cases p with
  | char c =>
    have hcode := toNat_lt_or_lt c
    have hchar : ¬(firstHalf ≤ c.toNat ∧ c.toNat < firstHalf + 0x800) := by
      simp only [firstHalf]
      omega
    rw [code, ofCode, dif_neg hchar, Char.ofNat_toNat]
  | half place => simp [code, ofCode]

/-- The character that a high and a low half make. -/
def paired? : Point → Point → Option Char
  | half high, half low =>
    if high < 0x400 ∧ 0x400 ≤ low.val then
      some (Char.ofNat (0x10000 + high * 0x400 + (low - 0x400)))
    else none
  | _, _ => none

/-- The character, or another one in place of a half. -/
def charOr (other : Char) : Point → Char
  | char c => c
  | half _ => other

end Point

/-- No high half is directly followed by a low one. -/
def isJoined : List Point → Bool
  | p :: q :: rest => (p.paired? q).isNone && isJoined (q :: rest)
  | _ => true

/-- Makes characters of the halves that belong together. -/
def joinPairs : List Point → List Point
  | p :: q :: rest =>
    match p.paired? q with
    | some c => .char c :: joinPairs rest
    | none => p :: joinPairs (q :: rest)
  | points => points

theorem isJoined_chars (s : List Char) : isJoined (s.map .char) = true := by
  induction s with
  | nil => rfl
  | cons c s ih =>
    cases s with
    | nil => rfl
    | cons d s => exact ih

/-- A point that goes with no first point of a text can be put in front of it. -/
theorem isJoined_cons {p : Point} {points : List Point} (h : isJoined points = true)
    (hp : ∀ q ∈ points.head?, p.paired? q = none) : isJoined (p :: points) = true := by
  cases points with
  | nil => rfl
  | cons q rest => simp [isJoined, h, hp q rfl]

theorem isJoined_tail {p : Point} {points : List Point} (h : isJoined (p :: points) = true) :
    isJoined points = true := by
  cases points with
  | nil => rfl
  | cons q rest => exact ((Bool.and_eq_true _ _).mp h).2

theorem Point.paired?_char (p : Point) (c : Char) : p.paired? (.char c) = none := by
  cases p <;> rfl

/-- The first of the points stays, or it has become a character. -/
theorem head?_joinPairs {points : List Point} {q : Point} (h : q ∈ (joinPairs points).head?) :
    q ∈ points.head? ∨ ∃ c, q = .char c := by
  unfold joinPairs at h
  split at h
  · split at h
    · exact .inr ⟨_, (Option.some.inj h).symm⟩
    · exact .inl h
  · exact .inl h

theorem isJoined_joinPairs (points : List Point) : isJoined (joinPairs points) = true := by
  fun_induction joinPairs points with
  | case1 p q rest c hc ih =>
    refine isJoined_cons ih fun x hx => ?_
    rfl
  | case2 p q rest hnone ih =>
    refine isJoined_cons ih fun x hx => ?_
    rcases head?_joinPairs hx with hx | ⟨c, rfl⟩
    · exact Option.some.inj hx ▸ hnone
    · exact Point.paired?_char p c
  | case3 points hne =>
    cases points with
    | nil => rfl
    | cons p rest =>
      cases rest with
      | nil => rfl
      | cons q rest => exact absurd rfl (hne p q rest)

end ExpiryAudit.Text
