import ExpiryAudit.Proofs.Storage

/-!
# Tidy paths

Names that stay where they are can be left out of a path. So what a path leads to as it is
written, if that is anything, is what the tidy path leads to.
-/
namespace ExpiryAudit

/-- No part of a text has a mark in it. -/
theorem Text.not_mem_of_mem_split {mark : Char} {s part : List Char}
    (h : part ∈ split (· == mark) s) : mark ∉ part := by
  induction s generalizing part with
  | nil =>
    rw [split, List.mem_singleton] at h
    simp [h]
  | cons c rest ih =>
    rw [split] at h
    split at h
    · rcases List.mem_cons.1 h with rfl | h
      · simp
      · exact ih h
    · next hc =>
      have hne : mark ≠ c := fun he => hc (by simp [he])
      split at h
      · next first others heq =>
        rw [heq] at ih
        rcases List.mem_cons.1 h with rfl | h
        · simp [hne, ih List.mem_cons_self]
        · exact ih (List.mem_cons_of_mem _ h)
      · simp_all

namespace Path

theorem toList_text_written (s : String) : (written s).text.toList = s.toList := by
  have hne : (written s).names ≠ [] := mt List.map_eq_nil_iff.1 (Text.split_ne_nil _ _)
  rw [text, if_neg fun h => hne h.2, String.toList_append, String.toList_intercalate]
  simp only [written, List.map_map, Function.comp_def, String.toList_ofList, List.map_id']
  exact Text.join_split '/' s.toList

theorem rootOf_cases (s : List Char) :
    (s.head? = some '/' ∧ (rootOf s).toList.head? = some '/') ∨
      (s.head? ≠ some '/' ∧ rootOf s = "") := by
  unfold rootOf
  split
  · exact .inl ⟨rfl, rfl⟩
  · exact .inl ⟨rfl, rfl⟩
  · exact .inl ⟨rfl, rfl⟩
  · next h =>
    refine .inr ⟨fun hs => ?_, rfl⟩
    obtain ⟨t, rfl⟩ := List.head?_eq_some_iff.1 hs
    exact h t rfl

/-- Names have no slash, so a path of names alone does not start with one. -/
theorem head?_intercalate_ne {names : List String}
    (h : ∀ name ∈ names, name ≠ "" ∧ '/' ∉ name.toList) :
    (String.intercalate "/" names).toList.head? ≠ some '/' := by
  cases names with
  | nil => decide
  | cons name rest =>
    obtain ⟨hne, hslash⟩ := h name List.mem_cons_self
    have hchars : name.toList ≠ [] := fun he => hne (String.toList_inj.1 he)
    obtain ⟨c, chars, hc⟩ := List.exists_cons_of_ne_nil hchars
    have hnext : ∀ others, (name.toList ++ others).head? ≠ some '/' := by
      rw [hc]
      intro others hhead
      obtain rfl : c = '/' := Option.some.inj hhead
      exact hslash (hc ▸ List.mem_cons_self)
    rw [String.toList_intercalate]
    cases rest with
    | nil => simpa using hnext []
    | cons next rest =>
      rw [List.map_cons, List.map_cons, List.intercalate_cons_cons, List.append_assoc]
      exact hnext _

/-- A path starts at the root of all files if it has a slash in front. -/
theorem isAbsolute_tidy (s : String) : (tidy s).isAbsolute = (written s).isAbsolute := by
  rw [isAbsolute, isAbsolute, toList_text_written]
  rcases rootOf_cases s.toList with ⟨hs, hroot⟩ | ⟨hs, hroot⟩
  · have hne : (tidy s).root ≠ "" := fun h => by
      rw [show rootOf s.toList = "" from h] at hroot
      cases hroot
    rw [text, if_neg fun h => hne h.1, String.toList_append, hs]
    rw [List.head?_append, show (tidy s).root.toList.head? = some '/' from hroot]
    rfl
  · have hhead : (tidy s).text.toList.head? ≠ some '/' := by
      rw [text]
      split
      · decide
      · rw [show (tidy s).root = "" from hroot, String.empty_append]
        refine head?_intercalate_ne fun name hname => ?_
        obtain ⟨hmem, hkept⟩ := List.mem_filter.1 hname
        obtain ⟨part, hpart, rfl⟩ := List.mem_map.1 hmem
        refine ⟨fun h => by simp [h] at hkept, ?_⟩
        rw [String.toList_ofList]
        exact Text.not_mem_of_mem_split hpart
    rw [beq_eq_false_iff_ne.2 hhead, beq_eq_false_iff_ne.2 hs]

end Path

namespace Files

variable {f : Files}

theorem walk_of_locate {p : Path} {place : Location} (h : f.locate p = .ok place) :
    f.walk (if p.isAbsolute then [] else f.here) p.names = .ok place := by
  unfold locate at h
  split at h
  · cases h
  · split at h
    · cases h
    · split at h
      · cases h
      · cases hw : f.walk (if p.isAbsolute then [] else f.here) p.names with
        | error problem =>
          rw [hw] at h
          cases h
        | ok last =>
          rw [hw] at h
          exact congrArg Except.ok (Except.ok.inj h)

theorem walk_filter_eq_ok {names : List String} {start last : Location}
    (h : f.walk start names = .ok last) :
    f.walk start (names.filter fun name => name != "" && name != ".") = .ok last := by
  induction names generalizing start with
  | nil => exact h
  | cons name rest ih =>
    unfold walk at h
    cases hs : f.step start name with
    | error e =>
      rw [hs] at h
      cases h
    | ok next =>
      rw [hs] at h
      by_cases hstay : name = "" ∨ name = "."
      · rw [List.filter_cons_of_neg (by rcases hstay with rfl | rfl <;> decide)]
        obtain rfl : start = next := by
          unfold step at hs
          split at hs
          · cases hs
          · cases hs
          · rw [if_pos hstay] at hs
            exact Except.ok.inj hs
        exact ih h
      · rw [List.filter_cons_of_pos (by simpa using not_or.1 hstay), walk, hs]
        exact ih h

/-- A path that leads to a file as it is written leads there without the names that stay. -/
theorem eq_of_read_written {path : String} {content found : FileContent}
    (h : f.read (.tidy path) = .ok content) (hwritten : f.read (.written path) = .ok found) :
    found = content := by
  obtain ⟨place, hplace, hnode⟩ := read_eq_ok_iff.1 h
  obtain ⟨place', hplace', hnode'⟩ := read_eq_ok_iff.1 hwritten
  have hwalk := walk_filter_eq_ok (walk_of_locate hplace')
  rw [← Path.isAbsolute_tidy] at hwalk
  cases (walk_of_locate hplace).symm.trans hwalk
  cases hnode.symm.trans hnode'
  rfl

end Files
end ExpiryAudit
