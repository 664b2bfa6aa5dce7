/-!
# Parts of texts

A text is taken apart at all marks, at the first one or at the last one. The marks belong
to no part.
-/
namespace ExpiryAudit.Text

/-- The parts of a text between characters of a kind. -/
def split (isMark : Char → Bool) : List Char → List (List Char)
  | [] => [[]]
  | c :: rest =>
    if isMark c then [] :: split isMark rest
    else match split isMark rest with
      | part :: others => (c :: part) :: others
      | [] => [[c]]

theorem split_ne_nil (isMark : Char → Bool) (s : List Char) : split isMark s ≠ [] := by
  cases s with
  | nil => simp [split]
  | cons c rest =>
    simp only [split]
    split
    · simp
    · split <;> simp

/-- The text before the first mark and the text after it. -/
def cut (mark : Char) (s : List Char) : List Char × List Char :=
  (s.takeWhile (· != mark), (s.dropWhile (· != mark)).drop 1)

/-- The text after the last mark, and the text before it if there is one. -/
def cutLast (mark : Char) (s : List Char) : Option (List Char) × List Char :=
  let after := (s.reverse.takeWhile (· != mark)).reverse
  if s.contains mark then (some (s.take (s.length - after.length - 1)), after) else (none, after)

/-- Parts with a text between them. -/
def join (between : List Char) (parts : List (List Char)) : List Char :=
  List.intercalate between parts

@[simp] theorem join_single (between part : List Char) : join between [part] = part := by
  simp [join, List.intercalate]

theorem join_cons_cons (between part next : List Char) (rest : List (List Char)) :
    join between (part :: next :: rest) = part ++ between ++ join between (next :: rest) := by
  simp [join, List.intercalate]

/-- Nothing but the marks is lost. -/
theorem join_split (mark : Char) (s : List Char) : join [mark] (split (· == mark) s) = s := by
  induction s with
  | nil => simp [split]
  | cons c rest ih =>
    simp only [split, beq_iff_eq]
    cases h : split (· == mark) rest with
    | nil => exact absurd h (split_ne_nil _ rest)
    | cons part others =>
      rw [h] at ih
      split
      · next hc => rw [join_cons_cons, ih, hc]; rfl
      · cases others with
        | nil => rw [join_single] at ih ⊢; rw [ih]
        | cons next others =>
          rw [join_cons_cons] at ih ⊢
          rw [← ih]; rfl
end ExpiryAudit.Text
