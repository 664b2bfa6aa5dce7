import ExpiryAudit.Text.Line

/-!
# Lines of texts one after another

When a text ends where a line ends, the lines of what follows are lines of their own.
Half a line end at the seam gives one blank line more or less.
-/
namespace ExpiryAudit.Text

/-! ## Line ends -/

theorem unifyOnto_eq (done s : List Char) : unifyOnto done s = done.reverse ++ unifyLineEnds s := by
  have honto : ∀ done before, unifyOnto (done ++ before) s = before.reverse ++ unifyOnto done s := by
    intro done
    induction done, s using unifyOnto.induct with
    | case1 done => simp [unifyOnto]
    | case2 done rest ih => exact ih
    | case3 done rest hrest ih =>
      intro before
      rw [unifyOnto, unifyOnto]
      · exact ih before
      all_goals exact hrest
    | case4 done c rest hpair hreturn ih =>
      intro before
      rw [unifyOnto, unifyOnto]
      · exact ih before
      all_goals simp_all
  exact honto [] done

theorem unifyLineEnds_pair (rest : List Char) :
    unifyLineEnds ('\r' :: '\n' :: rest) = '\n' :: unifyLineEnds rest := by
  rw [unifyLineEnds, unifyOnto, unifyOnto_eq]
  rfl

theorem unifyLineEnds_cons {c : Char} (h : c ≠ '\r') (rest : List Char) :
    unifyLineEnds (c :: rest) = c :: unifyLineEnds rest := by
  rw [unifyLineEnds, unifyOnto, unifyOnto_eq]
  · rfl
  all_goals simp_all

theorem unifyLineEnds_of_not_mem {s : List Char} (h : '\r' ∉ s) : unifyLineEnds s = s := by
  induction s with
  | nil => rfl
  | cons c s ih =>
    obtain ⟨hc, hs⟩ := not_or.1 (mt List.mem_cons.2 h)
    rw [unifyLineEnds_cons (Ne.symm hc), ih hs]

/-- Line ends are unified on both sides of a seam that does not cut one of them in two. -/
theorem unifyLineEnds_append {s t : List Char}
    (h : s.getLast? ≠ some '\r' ∨ t.head? ≠ some '\n') :
    unifyLineEnds (s ++ t) = unifyLineEnds s ++ unifyLineEnds t := by
  have honto : ∀ done, unifyOnto done (s ++ t) = unifyOnto done s ++ unifyLineEnds t := by
    intro done
    induction done, s using unifyOnto.induct with
    | case1 done => rw [List.nil_append, unifyOnto_eq, unifyOnto]
    | case2 done rest ih =>
      have hrest : rest.getLast? ≠ some '\r' ∨ t.head? ≠ some '\n' := by
        cases rest <;> simp_all
      exact ih hrest
    | case3 done rest hrest ih =>
      have hnext : rest.getLast? ≠ some '\r' ∨ t.head? ≠ some '\n' := by
        cases rest <;> simp_all
      rw [List.cons_append, unifyOnto, unifyOnto]
      · exact ih hnext
      · exact hrest
      · intro u hu
        cases rest with
        | nil =>
          have ht : t = '\n' :: u := hu
          simp [ht] at h
        | cons c rest => exact hrest rest (by simp_all)
    | case4 done c rest hpair hreturn ih =>
      have hnext : rest.getLast? ≠ some '\r' ∨ t.head? ≠ some '\n' := by
        cases rest <;> simp_all
      rw [List.cons_append, unifyOnto, unifyOnto]
      · exact ih hnext
      all_goals simp_all
  exact honto []

/-- A text ends where a line ends, or is empty. -/
def EndsLine (s : List Char) : Prop := ∀ c ∈ s.getLast?, c = '\n' ∨ c = '\r'

/-- Whatever ends the last line is one line feed in the end. -/
theorem unifyLineEnds_of_endsLine {s : List Char} (h : EndsLine s) :
    s = [] ∨ ∃ u, unifyLineEnds s = u ++ ['\n'] := by
  cases hs : s.getLast? with
  | none => exact .inl (List.getLast?_eq_none_iff.1 hs)
  | some c =>
    obtain ⟨u, rfl⟩ := List.getLast?_eq_some_iff.1 hs
    refine .inr ?_
    rcases h c hs with rfl | rfl
    · by_cases hu : u.getLast? = some '\r'
      · obtain ⟨v, rfl⟩ := List.getLast?_eq_some_iff.1 hu
        refine ⟨unifyLineEnds v, ?_⟩
        rw [List.append_assoc, unifyLineEnds_append (.inr (by simp))]
        rfl
      · exact ⟨unifyLineEnds u, unifyLineEnds_append (.inl hu)⟩
    · exact ⟨unifyLineEnds u, unifyLineEnds_append (.inr (by simp))⟩

/-! ## Lines -/

theorem splitOnto_eq (line : List Char) (done : List (List Char)) (s : List Char) :
    splitOnto line done s = done.reverse ++ splitOnto line [] s := by
  induction s generalizing line done with
  | nil => cases line <;> simp [splitOnto]
  | cons c s ih =>
    by_cases hc : c = '\n'
    · subst hc
      rw [splitOnto, splitOnto, ih, ih [] [line.reverse]]
      simp
    · rw [splitOnto, splitOnto, ih]
      all_goals simpa using hc

theorem splitLines_append (s t : List Char) :
    splitLines (s ++ ['\n'] ++ t) = splitLines (s ++ ['\n']) ++ splitLines t := by
  have honto : ∀ line done, splitOnto line done (s ++ ['\n'] ++ t) =
      splitOnto line done (s ++ ['\n']) ++ splitLines t := by
    induction s with
    | nil =>
      intro line done
      rw [List.nil_append, List.singleton_append, splitOnto, splitOnto_eq, splitOnto, splitOnto]
      rfl
    | cons c s ih =>
      intro line done
      by_cases hc : c = '\n'
      · subst hc
        exact ih [] (line.reverse :: done)
      · rw [List.cons_append, List.cons_append, splitOnto, splitOnto, ih]
        all_goals simpa using hc
  exact honto [] []

/-- The lines that are not blank. -/
def contents (s : List Char) : List (List Char) := (lines s).filter fun l => !l.isEmpty

theorem contents_eq_append {s t whole u : List Char} (hs : unifyLineEnds s = u ++ ['\n'])
    (hwhole : unifyLineEnds whole = u ++ ['\n'] ++ unifyLineEnds t) :
    contents whole = contents s ++ contents t := by
  rw [contents, lines, hwhole, splitLines_append, List.map_append, List.filter_append, ← hs]
  rfl

/-- A line feed in front is one more blank line. -/
theorem contents_lineFeed (t : List Char) : contents ('\n' :: t) = contents t := by
  rw [contents, lines, unifyLineEnds_cons (by decide), splitLines, splitOnto, splitOnto_eq]
  rfl

/-- The lines of two texts one after another, blank ones left out. -/
theorem contents_append {s : List Char} (h : EndsLine s) (t : List Char) :
    contents (s ++ t) = contents s ++ contents t := by
  obtain rfl | ⟨u, hu⟩ := unifyLineEnds_of_endsLine h
  · rfl
  by_cases hseam : s.getLast? = some '\r' ∧ t.head? = some '\n'
  · obtain ⟨hs, ht⟩ := hseam
    obtain ⟨s, rfl⟩ := List.getLast?_eq_some_iff.1 hs
    obtain ⟨t, rfl⟩ := List.head?_eq_some_iff.1 ht
    -- The line end at the seam is one, and it is counted on both sides.
    have hpair : unifyLineEnds (s ++ ['\r'] ++ '\n' :: t) = u ++ ['\n'] ++ unifyLineEnds t := by
      have hreturn : ∀ rest, unifyLineEnds (s ++ '\r' :: rest) =
          unifyLineEnds s ++ unifyLineEnds ('\r' :: rest) := fun rest =>
        unifyLineEnds_append (.inr (by simp))
      rw [← hu, List.append_assoc, List.singleton_append, hreturn, hreturn, unifyLineEnds_pair,
        List.append_assoc]
      rfl
    rw [contents_lineFeed]
    exact contents_eq_append hu hpair
  · refine contents_eq_append hu ?_
    rw [unifyLineEnds_append (Decidable.not_and_iff_or_not.1 hseam), hu]

end ExpiryAudit.Text
