/-!
# Hexadecimal digits

Codes are written and read with sixteen digits. Letters are written small and read in
either case.
-/
namespace ExpiryAudit.Text

/-- The lower case hexadecimal digits of a code, filled up to a width. -/
def hexadecimal (width n : Nat) : List Char :=
  (List.range width).map fun i => Nat.digitChar (n / Nat.pow 16 (width - 1 - i) % 16)

/-- The value of a hexadecimal digit. -/
def hexadecimalValue? (c : Char) : Option Nat :=
  if '0' ≤ c ∧ c ≤ '9' then some (c.toNat - '0'.toNat)
  else if 'a' ≤ c ∧ c ≤ 'f' then some (c.toNat - 'a'.toNat + 10)
  else if 'A' ≤ c ∧ c ≤ 'F' then some (c.toNat - 'A'.toNat + 10)
  else none

/-- The number that hexadecimal digits make; other characters count as zeros. -/
def hexadecimalNumber (s : List Char) : Nat :=
  s.foldl (fun n c => 16 * n + (hexadecimalValue? c).getD 0) 0

@[simp] theorem length_hexadecimal (width n : Nat) : (hexadecimal width n).length = width := by
  simp [hexadecimal]

end ExpiryAudit.Text
