import ExpiryAudit.Proofs.Replay
import ExpiryAudit.Service.Scenario
import Mathlib.Data.Nat.Find

/-!
# Replays in closed form

A replay keeps a history that depends on all verdicts so far. It can be read off the
windows alone: before each window the history consists of the windows since the last
ambiguous one, which itself stays in. The scenario that replays a sequence of windows
reports the last length of this history and the number of ambiguous verdicts.
-/
namespace ExpiryAudit

/-! ## The last ambiguous step -/

/-- Whether there is an ambiguous step at a place. -/
def ambiguousAt (steps : List ReplayStep) (i : Nat) : Bool :=
  steps[i]?.any fun s => s.verdict.isAmbiguous

/-- The greatest place before `i` with an ambiguous step; zero if there is none. -/
def lastReset (steps : List ReplayStep) (i : Nat) : Nat :=
  Nat.findGreatest (fun j => ambiguousAt steps j = true) (i - 1)

theorem lastReset_le (steps : List ReplayStep) (i : Nat) : lastReset steps i ≤ i :=
  Nat.le_trans (Nat.findGreatest_le _) (Nat.sub_le _ _)

theorem lastReset_succ (steps : List ReplayStep) (i : Nat) :
    lastReset steps (i + 1) = if ambiguousAt steps i then i else lastReset steps i := by
  cases i with
  | zero => simp [lastReset]
  | succ i => simp [lastReset, Nat.findGreatest_succ]

namespace Detector

variable (d : Detector)

theorem ambiguousAt_replay {windows : List Window} {i : Nat} {w : Window}
    (h : windows[i]? = some w) :
    ambiguousAt (d.replay windows) i = d.isAmbiguous w (d.historyAfter (windows.take i)) := by
  rw [ambiguousAt, replay_getElem?, h]
  rfl

/-- The history holds the windows since the last ambiguous one, and that one too. -/
theorem historyAfter_take {windows : List Window} {i : Nat} (h : i ≤ windows.length) :
    d.historyAfter (windows.take i) =
      (windows.take i).drop (lastReset (d.replay windows) i) := by
  induction i with
  | zero => simp
  | succ i ih =>
    have hlt : i < windows.length := h
    have hget : windows[i]? = some windows[i] := List.getElem?_eq_getElem hlt
    have hlength : (windows.take i).length = i := List.length_take_of_le (Nat.le_of_lt hlt)
    rw [← List.take_append_getElem hlt, historyAfter_append_singleton, lastReset_succ,
      d.ambiguousAt_replay hget]
    cases hambiguous : d.isAmbiguous windows[i] (d.historyAfter (windows.take i)) with
    | true =>
      rw [d.next_of_ambiguous hambiguous, if_pos rfl, List.drop_left' hlength]
    | false =>
      have hle : lastReset (d.replay windows) i ≤ (windows.take i).length :=
        hlength.symm ▸ lastReset_le _ i
      rw [d.next_of_unambiguous hambiguous, ih (Nat.le_of_lt hlt), if_neg (by simp),
        List.drop_append_of_le_length hle]

theorem windows_replay (windows : List Window) :
    (d.replay windows).map ReplayStep.window = windows := by
  refine List.ext_getElem? fun i => ?_
  rw [List.getElem?_map, replay_getElem?]
  cases windows[i]? <;> rfl

/-! ## Steps in closed form -/

/-- Whether a window clashes with that of a step from `start` up to `i`. -/
def clashesSince (steps : List ReplayStep) (start i : Nat) (w : Window) : Bool :=
  decide (∃ k < i, start ≤ k ∧ (steps[k]?.any fun s => d.clashes s.window w) = true)

theorem any_clashes_drop_take (steps : List ReplayStep) (start i : Nat) (w : Window) :
    (((steps.map ReplayStep.window).take i).drop start).any (fun e => d.clashes e w) =
      d.clashesSince steps start i w := by
  rw [Bool.eq_iff_iff, List.any_eq_true, clashesSince, decide_eq_true_eq]
  constructor
  · rintro ⟨e, hmem, hclash⟩
    obtain ⟨k, hget⟩ := List.mem_iff_getElem?.1 hmem
    rw [List.getElem?_drop, List.getElem?_take, List.getElem?_map] at hget
    split at hget
    · obtain ⟨s, hstep, rfl⟩ := Option.map_eq_some_iff.1 hget
      exact ⟨start + k, by omega, by omega, by simpa [hstep] using hclash⟩
    · cases hget
  · rintro ⟨k, hlt, hle, hclash⟩
    obtain ⟨s, hstep, hclash⟩ := (Option.any_eq_true ..).1 hclash
    refine ⟨s.window, List.mem_iff_getElem?.2 ⟨k - start, ?_⟩, hclash⟩
    rw [List.getElem?_drop, List.getElem?_take, Nat.add_sub_cancel' hle, if_pos hlt,
      List.getElem?_map, hstep]
    rfl

/-- The reason of a verdict, one question after the other. -/
theorem reason_judge (w : Window) (history : List Window) :
    (d.judge w history).reason =
      if d.tooSlow w then "TOO_SLOW"
      else if history.any (fun e => d.clashes e w) then "CLASH"
      else "CLEAN" := by
  unfold judge
  split
  · rfl
  · have hany : history.any (fun e => d.clashes e w) = (d.firstClash w history).isSome := by
      rw [Bool.eq_iff_iff, List.any_eq_true, firstClash, List.find?_isSome]
    rw [hany]
    cases d.firstClash w history <;> rfl

theorem Verdict.isAmbiguous_iff_reason_ne (v : Verdict) :
    v.isAmbiguous = true ↔ v.reason ≠ "CLEAN" := by
  cases v <;> simp [isAmbiguous, reason]

/-- A step of a replay is that of its window and of the windows since the last ambiguous
step. -/
theorem replay_step {windows : List Window} {i : Nat} {s : ReplayStep}
    (h : (d.replay windows)[i]? = some s) :
    s.verdict.reason =
      (if d.tooSlow s.window then "TOO_SLOW"
       else if d.clashesSince (d.replay windows) (lastReset (d.replay windows) i) i s.window
       then "CLASH" else "CLEAN") ∧
    s.historyLength =
      if s.verdict.isAmbiguous then 1 else i - lastReset (d.replay windows) i + 1 := by
  rw [replay_getElem?] at h
  obtain ⟨w, hget, rfl⟩ := Option.map_eq_some_iff.1 h
  obtain ⟨hlt, -⟩ := List.getElem?_eq_some_iff.1 hget
  have hhistory := d.historyAfter_take (Nat.le_of_lt hlt)
  constructor
  · dsimp only
    rw [reason_judge, hhistory, ← any_clashes_drop_take, windows_replay]
  · have hlength : (d.historyAfter (windows.take i)).length =
        i - lastReset (d.replay windows) i := by
      rw [hhistory, List.length_drop, List.length_take_of_le (Nat.le_of_lt hlt)]
    dsimp only
    rw [length_next, hlength, isAmbiguous]
    split
    · rfl
    · rfl

end Detector

/-! ## Windows given by their instants -/

/-- A replay fails at the first window that ends before it starts, and only there. -/
theorem replayWindows_eq_error_iff (d : Detector) {windows : List (Int × Int)} {f : Fault} :
    replayWindows d.lifetime windows = .error f ↔
      ∃ earlier before after later, windows = earlier ++ (before, after) :: later ∧
        (∀ w ∈ earlier, w.1 ≤ w.2) ∧ after < before ∧ f = .inverted before after := by
  have hbuilt (w : Int × Int) : (∃ made, Window.make w.1 w.2 = .ok made) ↔ w.1 ≤ w.2 := by
    unfold Window.make
    split <;> simp_all
  have hrefused (w : Int × Int) :
      Window.make w.1 w.2 = .error f ↔ w.2 < w.1 ∧ f = .inverted w.1 w.2 := by
    unfold Window.make
    split <;> grind
  have hreplay : replayWindows d.lifetime windows = .error f ↔
      windows.mapM (fun w => Window.make w.1 w.2) = .error f := by
    simp only [replayWindows, Detector.make_lifetime, bind, Except.bind]
    split <;> simp_all [pure, Except.pure]
  rw [hreplay, mapM_eq_error_iff]
  simp only [hbuilt, hrefused, Prod.exists]

/-- A replay that returns is one of windows. -/
theorem exists_of_replayWindows_eq_ok (d : Detector) {windows : List (Int × Int)}
    {steps : List ReplayStep} (h : replayWindows d.lifetime windows = .ok steps) :
    ∃ made : List Window,
      windows = made.map (fun w => (w.before, w.after)) ∧ steps = d.replay made := by
  rw [replayWindows, Detector.make_lifetime] at h
  obtain ⟨made, hmade, h⟩ := eq_ok_of_bind_eq_ok (x := windows.mapM _) h
  refine ⟨made, ?_, (Except.ok.inj h).symm⟩
  rw [← List.forall₂_eq_eq_eq, List.forall₂_map_right_iff]
  refine (mapM_eq_ok_iff.1 hmade).imp fun w made hmake => ?_
  obtain ⟨hbefore, hafter⟩ := Window.make_eq_ok_iff.1 hmake
  exact Prod.ext hbefore.symm hafter.symm

/-! ## The scenario of a sequence of windows -/

namespace Scenario

/-- The lifetime and the windows that parameters give. -/
structure Gives (params : Params) (lifetime : Int) (windows : List (Int × Int)) : Prop where
  lifetime : ∃ v, (Json.obj params).field "ttl_ms" = .ok v ∧ v.toInt = .ok lifetime
  windows : ∃ v written, (Json.obj params).field "windows" = .ok v ∧ v.elements = .ok written ∧
    List.Forall₂ (fun w x => ∃ b a, w.pair = .ok (b, a) ∧ b.toInt = .ok x.1 ∧ a.toInt = .ok x.2)
      written windows

/-- The length that a final history is expected to have, if any. -/
def expectedLength (params : Params) : Json :=
  (Named.find? params "expected_history_length").getD .null

theorem runSequence_eq_ok_iff {params : Params} {report : Json} :
    runSequence params = .ok report ↔
      ∃ lifetime windows steps passed, Gives params lifetime windows ∧
        replayWindows lifetime windows = .ok steps ∧
        lengthAgrees (expectedLength params) (finalLength steps) = .ok passed ∧
        report = .obj [("passed", .bool passed),
          ("verdicts", .arr (steps.map ReplayStep.toJson)),
          ("history_length", .int (finalLength steps)), ("clashes", .int (clashCount steps))] := by
  constructor
  · intro h
    obtain ⟨v, hfield, h⟩ := eq_ok_of_bind_eq_ok h
    obtain ⟨written, helements, h⟩ := eq_ok_of_bind_eq_ok h
    obtain ⟨windows, hwindows, h⟩ := eq_ok_of_bind_eq_ok h
    obtain ⟨ttl, httl, h⟩ := eq_ok_of_bind_eq_ok h
    obtain ⟨lifetime, hlifetime, h⟩ := eq_ok_of_bind_eq_ok h
    obtain ⟨steps, hsteps, h⟩ := eq_ok_of_bind_eq_ok h
    obtain ⟨passed, hpassed, h⟩ := eq_ok_of_bind_eq_ok h
    refine ⟨lifetime, windows, steps, passed,
      ⟨⟨ttl, httl, hlifetime⟩, v, written, hfield, helements, ?_⟩, hsteps, hpassed,
      (Except.ok.inj h).symm⟩
    refine (mapM_eq_ok_iff.1 hwindows).imp fun w x hx => ?_
    obtain ⟨⟨b, a⟩, hpair, hx⟩ := eq_ok_of_bind_eq_ok hx
    obtain ⟨before, hbefore, hx⟩ := eq_ok_of_bind_eq_ok hx
    obtain ⟨after, hafter, hx⟩ := eq_ok_of_bind_eq_ok hx
    cases hx
    exact ⟨b, a, hpair, hbefore, hafter⟩
  · rintro ⟨lifetime, windows, steps, passed, ⟨⟨ttl, httl, hlifetime⟩, v, written, hfield,
      helements, hwindows⟩, hsteps, hpassed, rfl⟩
    refine bind_eq_ok hfield (bind_eq_ok helements (bind_eq_ok
      (mapM_eq_ok_iff.2 (hwindows.imp fun w x hx => ?_)) (bind_eq_ok httl
        (bind_eq_ok hlifetime (bind_eq_ok hsteps (bind_eq_ok hpassed rfl))))))
    obtain ⟨b, a, hpair, hbefore, hafter⟩ := hx
    exact bind_eq_ok hpair (bind_eq_ok hbefore (bind_eq_ok hafter rfl))

theorem exists_lengthAgrees {expected : Json}
    (h : expected = .null ∨ ∃ n, expected.toInt = .ok n) (length : Nat) :
    ∃ passed, lengthAgrees expected length = .ok passed := by
  rcases h with rfl | ⟨n, hn⟩
  · exact ⟨true, rfl⟩
  · cases expected with
    | null => exact ⟨true, rfl⟩
    | _ => exact ⟨(length : Int) == n, bind_eq_ok hn rfl⟩

end Scenario

/-! ## The closed form -/

/-- The steps of a replay, each from its own window and from those since the last ambiguous
step. -/
structure Detector.ClosedForm (d : Detector) (windows : List (Int × Int))
    (steps : List ReplayStep) : Prop where
  windows : steps.map (fun s => (s.window.before, s.window.after)) = windows
  reason : ∀ i s, steps[i]? = some s → s.verdict.reason =
    if d.lifetime ≤ s.window.after - s.window.before then "TOO_SLOW"
    else if d.clashesSince steps (lastReset steps i) i s.window then "CLASH"
    else "CLEAN"
  isAmbiguous : ∀ s ∈ steps, s.verdict.isAmbiguous = true ↔ s.verdict.reason ≠ "CLEAN"
  historyLength : ∀ i s, steps[i]? = some s →
    s.historyLength = if s.verdict.isAmbiguous then 1 else i - lastReset steps i + 1

theorem Detector.closedForm_replay (d : Detector) (windows : List Window) :
    d.ClosedForm (windows.map fun w => (w.before, w.after)) (d.replay windows) where
  windows := by
    conv_rhs => rw [← d.windows_replay windows, List.map_map]
    rfl
  reason i s hs := by
    simpa only [Detector.tooSlow, decide_eq_true_eq] using (d.replay_step hs).1
  isAmbiguous s _ := s.verdict.isAmbiguous_iff_reason_ne
  historyLength i s hs := (d.replay_step hs).2

/-- A replay fails exactly if some window ends before it starts, with a fault of a value;
any other one is in closed form. The scenario reports the length of the last history, or
zero, and the number of ambiguous verdicts. It runs whenever its windows can be replayed and
its expected length, if there is one, can be read. -/
theorem replay_in_closed_form :
    (∀ (d : Detector) (windows : List (Int × Int)),
      ((∃ f, replayWindows d.lifetime windows = .error f) ↔ ∃ w ∈ windows, w.2 < w.1) ∧
      (∀ f, replayWindows d.lifetime windows = .error f → f.kind = .value) ∧
      ∀ steps, replayWindows d.lifetime windows = .ok steps → d.ClosedForm windows steps) ∧
    (∀ params report, Scenario.sequence.run params = .ok report →
      ∃ lifetime windows steps, Scenario.Gives params lifetime windows ∧
        replayWindows lifetime windows = .ok steps ∧
        report.field "verdicts" = .ok (.arr (steps.map ReplayStep.toJson)) ∧
        report.field "history_length" =
          .ok (.int ((steps.getLast?.map ReplayStep.historyLength).getD 0)) ∧
        report.field "clashes" =
          .ok (.int (steps.filter fun s => s.verdict.isAmbiguous).length)) ∧
    ∀ params lifetime windows steps, Scenario.Gives params lifetime windows →
      replayWindows lifetime windows = .ok steps →
      (Scenario.expectedLength params = .null ∨
        ∃ n, (Scenario.expectedLength params).toInt = .ok n) →
      ∃ report, Scenario.sequence.run params = .ok report := by
  refine ⟨fun d windows => ⟨⟨?_, ?_⟩, ?_, ?_⟩, ?_, ?_⟩
  · rintro ⟨f, hf⟩
    obtain ⟨earlier, before, after, later, rfl, -, hlt, -⟩ := (replayWindows_eq_error_iff d).1 hf
    exact ⟨(before, after), by simp, hlt⟩
  · rintro ⟨w, hw, hlt⟩
    cases hreplay : replayWindows d.lifetime windows with
    | error f => exact ⟨f, rfl⟩
    | ok steps =>
      obtain ⟨made, rfl, -⟩ := exists_of_replayWindows_eq_ok d hreplay
      obtain ⟨v, -, rfl⟩ := List.mem_map.1 hw
      exact absurd v.before_le_after (Int.not_le.2 hlt)
  · intro f hf
    obtain ⟨_, before, after, _, -, -, -, rfl⟩ := (replayWindows_eq_error_iff d).1 hf
    rfl
  · intro steps hsteps
    obtain ⟨made, rfl, rfl⟩ := exists_of_replayWindows_eq_ok d hsteps
    exact d.closedForm_replay made
  · intro params report hrun
    obtain ⟨lifetime, windows, steps, passed, hgives, hsteps, -, rfl⟩ :=
      Scenario.runSequence_eq_ok_iff.1 hrun
    refine ⟨lifetime, windows, steps, hgives, hsteps, rfl, ?_, ?_⟩
    · unfold Scenario.finalLength
      cases hlast : steps.getLast? <;> rfl
    · rw [← List.countP_eq_length_filter]
      rfl
  · intro params lifetime windows steps hgives hsteps hexpected
    obtain ⟨passed, hpassed⟩ := Scenario.exists_lengthAgrees hexpected (Scenario.finalLength steps)
    exact ⟨_, Scenario.runSequence_eq_ok_iff.2
      ⟨lifetime, windows, steps, passed, hgives, hsteps, hpassed, rfl⟩⟩

/-- A clean window, one that clashes with it, one that is apart from the second and one that
is too slow. -/
theorem replay_in_closed_form_of_four_windows :
    let windows := [(0, 5), (50, 55), (200, 205), (300, 360)]
    ∃ steps, replayWindows 50 windows = .ok steps ∧
      steps.map (fun s => (s.verdict.reason, s.historyLength)) =
        [("CLEAN", 1), ("CLASH", 1), ("CLEAN", 2), ("TOO_SLOW", 1)] ∧
      Detector.ClosedForm ⟨50, by decide⟩ windows steps :=
  ⟨_, rfl, by decide, (replay_in_closed_form.1 ⟨50, by decide⟩ _).2.2 _ rfl⟩

end ExpiryAudit
