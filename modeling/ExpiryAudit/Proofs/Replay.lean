import ExpiryAudit.Proofs.Act
import ExpiryAudit.Replay
import Mathlib.Data.List.Induction

/-!
# Replays step by step

The history that a replay has after some of its windows, and each step as the judgement
of one window against the history before it.
-/
namespace ExpiryAudit

/-- The readings of a clock in which an update is applied. -/
def Window.readings (w : Window) : List Int := [w.before, w.after]

/-- The readings of a step: those of the first attempt and, if that was ambiguous, the same
ones for the second. -/
def ReplayStep.readings (s : ReplayStep) : List Int :=
  if s.verdict.isAmbiguous then s.window.readings ++ s.window.readings else s.window.readings

namespace Detector

theorem eq_of_lifetime_eq {d e : Detector} (h : d.lifetime = e.lifetime) : d = e := by
  cases d
  cases e
  cases h
  rfl

/-- Every positive lifetime makes one detector, no other one makes any. -/
theorem make_eq_ok_iff {lifetime : Int} {d : Detector} :
    make lifetime = .ok d ↔ d.lifetime = lifetime := by
  unfold make
  split
  · constructor
    · rintro ⟨⟩
      rfl
    · rintro rfl
      rfl
  · next h =>
    constructor
    · rintro ⟨⟩
    · rintro rfl
      exact absurd d.lifetime_pos h

variable (d : Detector)

@[simp] theorem make_lifetime : make d.lifetime = .ok d := make_eq_ok_iff.2 rfl

/-- The history after one more window. -/
def next (history : List Window) (w : Window) : List Window :=
  record (d.judge w history) w history

/-- The history after some windows have been replayed. -/
def historyAfter (windows : List Window) : List Window := windows.foldl d.next []

@[simp] theorem historyAfter_nil : d.historyAfter [] = [] := rfl

theorem historyAfter_append_singleton (windows : List Window) (w : Window) :
    d.historyAfter (windows ++ [w]) = d.next (d.historyAfter windows) w := by
  simp only [historyAfter, List.foldl_append, List.foldl_cons, List.foldl_nil]

theorem next_of_unambiguous {history : List Window} {w : Window}
    (h : d.isAmbiguous w history = false) : d.next history w = history ++ [w] := by
  have hverdict : (d.judge w history).isAmbiguous = false := h
  rw [next, record, hverdict]
  rfl

theorem next_of_ambiguous {history : List Window} {w : Window}
    (h : d.isAmbiguous w history = true) : d.next history w = [w] := by
  have hverdict : (d.judge w history).isAmbiguous = true := h
  rw [next, record, hverdict]
  rfl

/-- An ambiguous window is recorded after no others, any other one after all. -/
theorem length_next (history : List Window) (w : Window) :
    (d.next history w).length = (if d.isAmbiguous w history then 0 else history.length) + 1 := by
  cases h : d.isAmbiguous w history with
  | false =>
    rw [d.next_of_unambiguous h, List.length_append]
    rfl
  | true =>
    rw [d.next_of_ambiguous h]
    rfl

theorem length_historyAfter_le (windows : List Window) :
    (d.historyAfter windows).length ≤ windows.length := by
  induction windows using List.reverseRecOn with
  | nil => exact Nat.le_refl _
  | append_singleton windows w ih =>
    rw [historyAfter_append_singleton, length_next, List.length_append]
    split
    · exact Nat.le_add_left _ _
    · exact Nat.succ_le_succ ih

theorem replayFrom_getElem? (history windows : List Window) (i : Nat) :
    (d.replayFrom history windows)[i]? = windows[i]?.map fun w =>
      let before := (windows.take i).foldl d.next history
      ⟨w, d.judge w before, (d.next before w).length⟩ := by
  induction windows generalizing history i with
  | nil => rfl
  | cons w rest ih =>
    cases i with
    | zero => rfl
    | succ i =>
      rw [replayFrom, List.getElem?_cons_succ, List.getElem?_cons_succ, List.take_succ_cons,
        List.foldl_cons]
      exact ih _ _

/-- A step of a replay judges its window against the history that the windows before have
left. -/
theorem replay_getElem? (windows : List Window) (i : Nat) :
    (d.replay windows)[i]? = windows[i]?.map fun w =>
      ⟨w, d.judge w (d.historyAfter (windows.take i)),
        (d.next (d.historyAfter (windows.take i)) w).length⟩ :=
  d.replayFrom_getElem? [] windows i

theorem length_replayFrom (history windows : List Window) :
    (d.replayFrom history windows).length = windows.length := by
  induction windows generalizing history with
  | nil => rfl
  | cons w rest ih => rw [replayFrom, List.length_cons, List.length_cons, ih]

theorem length_replay (windows : List Window) : (d.replay windows).length = windows.length :=
  d.length_replayFrom [] windows

end Detector

/-- Windows given by their instants are replayed as they are. -/
theorem replayWindows_eq_ok (d : Detector) (windows : List Window) :
    replayWindows d.lifetime (windows.map fun w => (w.before, w.after)) =
      .ok (d.replay windows) := by
  have hwindows : (windows.map fun w => (w.before, w.after)).mapM
      (fun w : Int × Int => Window.make w.1 w.2) = .ok windows := by
    rw [mapM_eq_ok_iff, List.forall₂_map_left_iff, List.forall₂_same]
    exact fun w _ => Window.make_of_le w.before_le_after
  simp only [replayWindows, Detector.make_lifetime, hwindows, bind, Except.bind, pure, Except.pure]

end ExpiryAudit
