import ExpiryAudit.Proofs.FaultyWrite

/-!
# Expectations within a window

An expectation looks at the instant only to tell which windows have expired. While an
unambiguous update is applied none of them does, so that at every instant of its window
the same is expected, before the update and after it.
-/
namespace ExpiryAudit

/-- Two tests that do the same to all items keep the same. -/
theorem Lifetime.keep_congr {α : Type} {test test' : α → Except Fault Bool} {items : List α}
    (h : ∀ x ∈ items, test x = test' x) : keep test items = keep test' items := by
  induction items with
  | nil => rfl
  | cons x rest ih =>
    obtain ⟨hx, hrest⟩ := List.forall_mem_cons.1 h
    rw [keep, keep, hx, ih hrest]

namespace Rule

variable {r : Rule} {updates : List Update} {now now' : Int}

/-! ## Which windows an expectation looks at -/

theorem mem_windows_of_latestEntries {latest : List (Text × (Int × Window))}
    (h : latestEntries updates = .ok latest) {e : Text × (Int × Window)} (he : e ∈ latest) :
    ∃ u ∈ updates, u.window = e.2.2 := by
  obtain ⟨entries, hentries, hlatest⟩ := eq_ok_of_bind_eq_ok h
  cases hlatest
  obtain ⟨u, hu, hentry⟩ := exists_of_mem_mapM hentries (Named.mem_of_mem_ofSettings he)
  obtain ⟨⟨name, n⟩, -, hentry⟩ := eq_ok_of_bind_eq_ok hentry
  cases hentry
  exact ⟨u, hu, rfl⟩

/-- A running sum carries the window of one of the updates that were added. -/
theorem mem_windows_of_runningSum {sum total : Json} {first last : Option Window}
    (h : r.runningSum sum first updates = .ok (total, last)) {w : Window} (hw : w ∈ last) :
    w ∈ first ∨ ∃ u ∈ updates, u.window = w := by
  induction updates generalizing sum first with
  | nil =>
    cases h
    exact .inl hw
  | cons u rest ih =>
    obtain ⟨carried, -, h⟩ := eq_ok_of_bind_eq_ok h
    obtain ⟨next, -, h⟩ := eq_ok_of_bind_eq_ok h
    rcases ih h with hu | ⟨v, hv, hwindow⟩
    · exact .inr ⟨u, List.mem_cons_self, Option.some.inj hu⟩
    · exact .inr ⟨v, List.mem_cons_of_mem u hv, hwindow⟩

/-- If the same windows have expired at two instants, the same is expected at both. -/
theorem expected_congr (h : ∀ u ∈ updates, r.expired u.window now = r.expired u.window now') :
    r.expected updates now = r.expected updates now' := by
  have hlasts : ∀ u ∈ updates, r.lasts u.window now = r.lasts u.window now' := fun u hu => by
    rw [lasts, lasts, h u hu]
  unfold expected
  cases r.kind with
  | value =>
    dsimp only
    unfold expectedValue
    cases hlast : updates.getLast? with
    | none => rfl
    | some u => simp only [h u (List.mem_of_getLast? hlast)]
  | list =>
    dsimp only
    rw [expectedList, expectedList, Lifetime.keep_congr hlasts]
  | map =>
    dsimp only
    unfold expectedMap
    cases hlatest : latestEntries updates with
    | error f => rfl
    | ok latest =>
      have hkeep : Lifetime.keep (fun e => r.lasts e.2.2 now) latest =
          Lifetime.keep (fun e => r.lasts e.2.2 now') latest := by
        refine Lifetime.keep_congr fun e he => ?_
        obtain ⟨u, hu, hwindow⟩ := mem_windows_of_latestEntries hlatest he
        exact hwindow ▸ hlasts u hu
      show Lifetime.keep _ latest >>= _ = _
      rw [hkeep]
      rfl
  | reducing =>
    dsimp only
    unfold expectedSum
    cases htotal : r.runningSum .null none updates with
    | error f => rfl
    | ok x =>
      obtain ⟨total, _ | w⟩ := x
      · rfl
      · rcases mem_windows_of_runningSum htotal rfl with hnone | ⟨u, hu, rfl⟩
        · cases hnone
        · show r.expired u.window now >>= _ = _
          rw [h u hu]
          rfl

/-! ## Unambiguous windows -/

variable {d : Detector} {history : List Update} {c : Update} {t t' : Int}

/-- Nothing expires while an unambiguous update is applied, nor does the update itself. -/
theorem lasts_eq_of_unambiguous (hclean : d.isAmbiguous c.window (windows history) = false)
    (ht : t ∈ c.window) :
    ∀ u ∈ history ++ [c], u.window.lasts d.lifetime t = u.window.lasts d.lifetime c.window.before := by
  intro u hu
  obtain ⟨hbefore, hafter⟩ := Window.mem_iff.1 ht
  rcases List.mem_append.1 hu with hu | hu
  · exact Detector.lasts_eq_of_isAmbiguous_eq_false hclean (List.mem_map_of_mem hu) hbefore hafter
  · cases List.mem_singleton.1 hu
    have hpos := d.lifetime_pos
    have hle := c.window.before_le_after
    exact decide_eq_decide.2 ⟨fun _ => by omega, fun _ => by omega⟩

/-- At every instant of an unambiguous window the same is expected as at its beginning. -/
theorem expected_eq_of_unambiguous (hr : r.lifetime.IsWhole d.lifetime)
    (hclean : d.isAmbiguous c.window (windows history) = false) (ht : t ∈ c.window) :
    r.expected history t = r.expected history c.window.before ∧
      r.expected (history ++ [c]) t = r.expected (history ++ [c]) c.window.before := by
  have hexpired : ∀ u ∈ history ++ [c],
      r.expired u.window t = r.expired u.window c.window.before := fun u hu => by
    rw [expired_eq_ok hr, expired_eq_ok hr, lasts_eq_of_unambiguous hclean ht u hu]
  exact ⟨expected_congr fun u hu => hexpired u (List.mem_append_left _ hu), expected_congr hexpired⟩

/-- Expectations are constant over an unambiguous window, whatever the order of the earlier
windows and whether they clash with each other or not. What is expected with the update is
what is expected without it, with its payload applied once. -/
theorem expected_constant_over_unambiguous (hr : r.lifetime.IsWhole d.lifetime)
    (hhistory : ∀ u ∈ history, r.kind.Accepts u.payload)
    (hclean : d.isAmbiguous c.window (windows history) = false) (ht : t ∈ c.window)
    (ht' : t' ∈ c.window) :
    ∃ before, r.expected history t = .ok before ∧ r.expected history t' = .ok before ∧
      r.expected (history ++ [c]) t = r.expected (history ++ [c]) t' ∧
      (r.kind.Accepts c.payload → ∃ after applied, r.expected (history ++ [c]) t = .ok after ∧
        AppliedOnce r.kind c.payload before applied ∧ after.agrees applied) := by
  have hlast : c.window.after ∈ c.window := ⟨c.window.before_le_after, Int.le_refl _⟩
  obtain ⟨hearlier, hlater⟩ := expected_eq_of_unambiguous hr hclean ht
  obtain ⟨hearlier', hlater'⟩ := expected_eq_of_unambiguous hr hclean ht'
  obtain ⟨before, hbefore, hkind, hshows⟩ := expected_shows hr hhistory c.window.before
  refine ⟨before, hearlier.trans hbefore, hearlier'.trans hbefore, hlater.trans hlater'.symm, ?_⟩
  intro hc
  have hall : ∀ u ∈ history ++ [c], r.kind.Accepts u.payload := by
    simpa only [List.forall_mem_append, List.forall_mem_singleton] using ⟨hhistory, hc⟩
  obtain ⟨after, hafter, hkind', hshows'⟩ := expected_shows hr hall c.window.after
  have hsettled : ∀ u ∈ history,
      u.window.lasts d.lifetime c.window.after = u.window.lasts d.lifetime c.window.before :=
    fun u hu => lasts_eq_of_unambiguous hclean hlast u (List.mem_append_left _ hu)
  obtain ⟨applied, happlied, hagrees⟩ :=
    AppliedOnce.of_shows d.lifetime_pos hc hsettled hkind hkind' hshows hshows'
  refine ⟨after, applied, ?_, happlied, hagrees⟩
  rw [hlater, ← (expected_eq_of_unambiguous hr hclean hlast).2, hafter]

/-- A sum that had restarted, at both ends of a window in which it goes on. -/
theorem expected_constant_over_unambiguous_of_sum :
    let d : Detector := ⟨10, by decide⟩
    let r : Rule := ⟨.reducing, .whole (.ofInt 10 (by decide))⟩
    let history : List Update :=
      [⟨.raw (.int 5), ⟨0, 3, by decide⟩⟩, ⟨.raw (.int 7), ⟨20, 24, by decide⟩⟩]
    let c : Update := ⟨.raw (.int 2), ⟨25, 29, by decide⟩⟩
    d.isAmbiguous c.window (windows history) = false ∧
      ∃ before, r.expected history 25 = .ok before ∧ r.expected history 29 = .ok before ∧
        ∃ after applied, r.expected (history ++ [c]) 25 = .ok after ∧
          AppliedOnce .reducing c.payload before applied ∧ after.agrees applied := by
  intro d r history c
  have hclean : d.isAmbiguous c.window (windows history) = false := by decide
  have haccepts : ∀ u ∈ history, r.kind.Accepts u.payload := by
    simp only [history, List.forall_mem_cons]
    exact ⟨rfl, rfl, List.forall_mem_nil _⟩
  have hbegin : (25 : Int) ∈ c.window := ⟨by decide, by decide⟩
  have hend : (29 : Int) ∈ c.window := ⟨by decide, by decide⟩
  obtain ⟨before, hfirst, hlast, -, happlied⟩ :=
    expected_constant_over_unambiguous ⟨_, rfl, rfl⟩ haccepts hclean hbegin hend
  exact ⟨hclean, before, hfirst, hlast, happlied rfl⟩

end Rule
end ExpiryAudit
