import ExpiryAudit.Proofs.InvertedWindows
import ExpiryAudit.Proofs.Summaries

/-!
# Summaries that are reported

A run does with its statistics one thing only: it records an update and flushes the summary, which
goes to the log. Whatever comes of the events, the log has one summary for each multiple of the
interval that the count of updates has passed.
-/
namespace ExpiryAudit

/-- The summary of a record of the log. -/
def LogEntry.summary? : LogEntry → Option Summary
  | summary s => some s
  | _ => none

/-- The summaries in a log. -/
def Log.summaries (l : Log) : List Summary := l.entries.filterMap LogEntry.summary?

theorem Log.summaries_cons (strict : Bool) (e : LogEntry) (recent : List LogEntry) :
    (Log.mk strict (e :: recent)).summaries =
      (Log.mk strict recent).summaries ++ e.summary?.toList := by
  rw [summaries, entries, List.reverse_cons, List.filterMap_append]
  cases h : e.summary? <;> simp [h, summaries, entries]

namespace Session

variable {σ α β : Type}

/-- The statistics and the summaries that have been reported. -/
def tally (s : Session σ) : Statistics × List Summary := (s.statistics, s.log.summaries)

/-! ## Acts without statistics -/

/-- The act leaves the statistics alone and reports no summary. -/
def Quiet (a : Act (Session σ) α) : Prop := ∀ s, (a.run s).2.tally = s.tally

theorem Quiet.keeps {P : Statistics × List Summary → Prop} {a : Act (Session σ) α} (h : Quiet a) :
    Act.Keeps (fun s => P s.tally) a := by
  intro s hs
  rw [h s]
  exact hs

theorem quiet_inWorld (a : Act σ α) : Quiet (inWorld a) := fun _ => rfl

theorem quiet_report {entry : LogEntry} (h : entry.summary? = none) :
    Quiet (report entry : Act (Session σ) Unit) := by
  intro s
  have hlog : ((Log.add entry).run s.log).2.summaries = s.log.summaries := by
    simp only [Log.add, Act.run]
    split
    · rw [Log.summaries_cons, h]
      exact List.append_nil _
    · split <;> rfl
  exact congrArg (s.statistics, ·) hlog

theorem quiet_reportAny {entry : Option LogEntry} (h : ∀ e ∈ entry, e.summary? = none) :
    Quiet (reportAny entry : Act (Session σ) Unit) := by
  cases entry with
  | none => exact fun _ => rfl
  | some e => exact quiet_report (h e rfl)

/-- Counting an update reports the summary that its flush gives. -/
theorem run_count_tally (clash : Bool) (length : Nat) (s : Session σ) :
    ((count clash length).run s).2.tally =
      ((Statistics.flush.run (s.statistics.count clash length)).2,
        s.log.summaries ++ (s.statistics.count clash length).flushed.summary?.toList) := by
  refine Prod.ext (run_count_statistics clash length s) ?_
  have hmodified : (Act.modify fun s : Session σ =>
      { s with statistics := s.statistics.count clash length }).run s =
      (.ok (), { s with statistics := s.statistics.count clash length }) := rfl
  rw [count, Act.run_bind_ok hmodified, Act.run_bind, inStatistics, Act.run_within,
    Statistics.Flush.summary?, Statistics.flushed]
  cases Statistics.flush.run (s.statistics.count clash length) with
  | mk result statistics =>
    rcases result with f | _ | y
    · exact (List.append_nil _).symm
    · exact (List.append_nil _).symm
    · exact Log.summaries_cons s.log.isStrict (.summary y) s.log.recent

/-- What a count does to the tally is kept, so it is kept by the act. -/
theorem count_keeps_tally {P : Statistics × List Summary → Prop}
    (hP : ∀ statistics summaries clash length, P (statistics, summaries) →
      P ((Statistics.flush.run (statistics.count clash length)).2,
        summaries ++ (statistics.count clash length).flushed.summary?.toList))
    (clash : Bool) (length : Nat) :
    Act.Keeps (fun s : Session σ => P s.tally) (count clash length) := by
  intro s hs
  rw [run_count_tally]
  exact hP _ _ clash length hs

end Session

/-! ## What a run keeps of its tally -/

namespace Auditor

variable {σ : Type} {a : Auditor σ}

section Tally

variable {P : Statistics × List Summary → Prop}
  (hP : ∀ statistics summaries clash length, P (statistics, summaries) →
    P ((Statistics.flush.run (statistics.count clash length)).2,
      summaries ++ (statistics.count clash length).flushed.summary?.toList))

theorem quiet_verdict (d : Detector) (w : Window) (v : Detector.Verdict) :
    Session.Quiet (Session.reportAny (d.logOf w v) : Act (Session σ) Unit) := by
  refine Session.quiet_reportAny fun e he => ?_
  cases v <;> cases he <;> rfl

theorem retry_keeps_tally (r : Rule) (key : Text) (p : Payload) :
    Act.Keeps (fun s => P s.tally) (a.retry r key p) := by
  refine Act.Keeps.bind (Session.quiet_inWorld _).keeps fun _ _ _ _ _ => ?_
  refine Act.Keeps.bind (fun _ hs => hs) fun _ _ _ _ _ => ?_
  refine Act.Keeps.bind (Session.quiet_inWorld _).keeps fun _ _ _ _ _ => ?_
  exact Act.Keeps.bind (Session.quiet_report rfl).keeps fun _ _ _ _ _ => Act.Keeps.pure _

theorem judge_keeps_tally (v : Verification) :
    Act.Keeps (fun s : Session σ => P s.tally) (judge v) := by
  refine Act.Keeps.bind (Act.Keeps.lift _) fun _ holds _ _ _ => ?_
  cases holds with
  | true => exact Act.Keeps.pure _
  | false =>
    refine Act.Keeps.bind (fun _ hs => hs) fun _ _ _ _ _ => ?_
    refine Act.Keeps.bind (Session.quiet_report rfl).keeps fun _ _ _ _ _ => ?_
    exact Act.Keeps.bind (Act.Keeps.lift _) fun _ _ _ _ _ => Act.Keeps.pure _

include hP

theorem record_keeps_tally (r : Rule) (key : Text) (clash : Bool) (previous : List Update)
    (o : Observation) : Act.Keeps (fun s : Session σ => P s.tally)
      (Auditor.record r key clash previous o) := by
  refine Act.Keeps.bind (Session.count_keeps_tally hP _ _) fun _ _ _ _ _ => ?_
  refine Act.Keeps.bind (Act.Keeps.lift _) fun _ _ _ _ _ => ?_
  exact Act.Keeps.bind (fun _ hs => hs) fun _ _ _ _ _ => Act.Keeps.pure _

theorem evaluate_keeps_tally (r : Rule) (key : Text) (p : Payload) :
    Act.Keeps (fun s => P s.tally) (a.evaluate r key p) := by
  refine Act.Keeps.bind (Session.quiet_inWorld _).keeps fun _ _ _ _ _ => ?_
  refine Act.Keeps.bind (fun _ hs => hs) fun _ previous _ _ _ => ?_
  refine Act.Keeps.bind (Session.quiet_inWorld _).keeps fun _ first _ _ _ => ?_
  refine Act.Keeps.bind (Act.Keeps.lift _) fun _ _ _ _ _ => ?_
  refine Act.Keeps.bind (quiet_verdict _ _ _).keeps fun _ _ _ _ _ => ?_
  dsimp only
  split
  · refine Act.Keeps.bind (retry_keeps_tally r key p) fun _ second _ _ _ => ?_
    exact record_keeps_tally hP r key _ [] second
  · exact record_keeps_tally hP r key _ previous first

theorem judgeAll_keeps_tally (key : Text) (pairs : List (Rule × Json)) :
    Act.Keeps (fun s => P s.tally) (a.judgeAll key pairs) := by
  induction pairs with
  | nil => exact Act.Keeps.pure _
  | cons pair rest ih =>
    refine Act.Keeps.bind (evaluate_keeps_tally hP _ _ _) fun _ _ _ _ _ => ?_
    refine Act.Keeps.bind (judge_keeps_tally _) fun _ _ _ _ _ => ?_
    exact Act.Keeps.bind ih fun _ _ _ _ _ => Act.Keeps.pure _

theorem process_keeps_tally (e : Event) : Act.Keeps (fun s => P s.tally) (a.process e) := by
  refine Act.Keeps.bind (Act.Keeps.lift _) fun _ _ _ _ _ => ?_
  refine Act.Keeps.bind (fun _ hs => hs) fun _ _ _ _ _ => ?_
  refine Act.Keeps.bind (judgeAll_keeps_tally hP _ _) fun _ _ _ _ _ => ?_
  exact Act.Keeps.bind (Session.quiet_report rfl).keeps fun _ _ _ _ _ => Act.Keeps.pure _

/-- What holds of the tally at first and is kept by every count holds in the whole run. -/
theorem Reachable.tally {moves : σ → σ → Prop} {s₀ s : Session σ} (h : a.Reachable moves s₀ s)
    (h₀ : P s₀.tally) : P s.tally := by
  induction h with
  | start => exact h₀
  | process e _ ih => exact process_keeps_tally hP e _ ih
  | move _ _ ih => exact ih

end Tally

/-- In a run every update is recorded and followed by a flush, whose summary is reported. -/
theorem Reachable.paced {moves : σ → σ → Prop} {w : σ} {log : Log} {history : History}
    {config : Config} {s : Session σ} (h : a.Reachable moves (.start w log history config) s) :
    let s₀ := Statistics.start config.reportEvery.amount config.reportEvery.amount_pos
    ∃ updates, s.statistics = s₀.after (Statistics.paced updates) ∧ s.log.summaries =
      log.summaries ++ (s₀.flushes (Statistics.paced updates)).filterMap (·.summary?) := by
  intro s₀
  refine h.tally (P := fun b => ∃ updates, b.1 = s₀.after (Statistics.paced updates) ∧ b.2 =
    log.summaries ++ (s₀.flushes (Statistics.paced updates)).filterMap (·.summary?)) ?_
    ⟨[], rfl, (List.append_nil _).symm⟩
  rintro _ _ clash length ⟨updates, rfl, rfl⟩
  refine ⟨updates ++ [(clash, length)], (Statistics.after_paced s₀ updates (clash, length)).symm, ?_⟩
  rw [Statistics.flushes_paced, List.filterMap_append, List.append_assoc]
  cases hgiven : ((s₀.after (Statistics.paced updates)).count clash length).flushed.summary? <;>
    simp [hgiven]

end Auditor

/-! ## One summary for each due count -/

namespace Statistics

/-- A summary is given once for each count at which it is due. Records and flushes may come in any
order. A record of a negative length is refused and changes nothing. A flush gives a summary at a
positive multiple of the interval, if the average is finite and no flush has given one at the
same count before; if the average is infinite, it fails instead, once. The summaries come at more
and more updates, and count the clashes among the updates until then. In a run there is one
summary for each multiple of the interval, but for those whose average is infinite. -/
theorem summary_once_per_due_count (reportEvery : Int) (hpos : 0 < reportEvery) :
    ∃ s₀, Statistics.make reportEvery = .ok s₀ ∧
    (∀ steps : List Step,
      let s := s₀.after steps
      let fs := s₀.flushes steps
      let given := fs.filterMap (·.summary?)
      (∀ clash length, length < 0 → s.record clash length = .error (.negativeLength length) ∧
        s.step (.record clash length) = s) ∧
      s.updates = (accepted steps).length ∧
      s.clashes = (accepted steps).countP (·.1) ∧ s.clashes ≤ s.updates ∧
      s.historyLength = ((accepted steps).map (·.2)).sum ∧
      ((∃ x, (flush.run s).1 = .ok (some x)) ↔
        (0 < s.updates ∧ reportEvery ∣ (s.updates : Int)) ∧ s.hasAverage = true ∧
          ∀ x ∈ fs, x.updates = s.updates → ¬∃ y, x.result = .ok (some y)) ∧
      ((∃ f, (flush.run s).1 = .error f) ↔
        (0 < s.updates ∧ reportEvery ∣ (s.updates : Int)) ∧ s.hasAverage = false ∧
          ∀ x ∈ fs, x.updates = s.updates → ¬∃ f, x.result = .error f) ∧
      (∀ f, (flush.run s).1 = .error f → f = .quotientOverflow) ∧
      given.Pairwise (·.updates < ·.updates) ∧
      ∀ x ∈ given, x.updates ≤ (accepted steps).length ∧
        x.clashes = ((accepted steps).take x.updates).countP (·.1)) ∧
    ∀ (σ : Type) (a : Auditor σ) (moves : σ → σ → Prop) (w : σ) (log : Log) (history : History)
      (config : Config), config.reportEvery.amount = reportEvery →
      ∀ s, a.Reachable moves (.start w log history config) s →
        ∃ given : List Summary, s.log.summaries = log.summaries ++ given ∧
          (∃ updates, s.statistics.unreported = s₀.totals updates ∧
            given = (List.range (s.statistics.updates / s₀.interval)).filterMap fun k =>
              (s₀.totals (updates.take ((k + 1) * s₀.interval))).summary.toOption) ∧
          (s.statistics.historyLength < capacity →
            given.length = s.statistics.updates / s₀.interval ∧
              given.map (·.updates) = (List.range (s.statistics.updates / s₀.interval)).map
                fun k => (k + 1) * s₀.interval) := by
  set s₀ := start reportEvery hpos
  refine ⟨s₀, dif_pos hpos, fun steps => ?_, ?_⟩
  · intro s fs given
    have hfresh : Follows s₀ [] [] s₀ := .refl rfl
    have hsteps := hfresh.steps rfl steps
    rw [List.nil_append, List.nil_append] at hsteps
    have hupdates : s.updates = (accepted steps).length := by
      rw [hsteps.updates_eq]
      exact Nat.zero_add _
    have hclashes : s.clashes = (accepted steps).countP (·.1) :=
      (congrArg (·.clashes) hsteps.unreported).trans
        ((totals_clashes s₀ (accepted steps)).trans (Nat.zero_add _))
    have hfewer : s.clashes ≤ s.updates := by
      rw [hclashes, hupdates]
      exact List.countP_le_length
    have hevery : s.reportEvery = reportEvery :=
      (congrArg (·.reportEvery) hsteps.unreported).trans (totals_reportEvery s₀ (accepted steps))
    refine ⟨fun clash length hneg => ⟨record_of_neg hneg, ?_⟩, hupdates, hclashes, hfewer, ?_, ?_, ?_,
      fun f => eq_of_flush_error, hsteps.summaries_ordered rfl, fun x hx => ?_⟩
    · rw [step, record_of_neg hneg]
    · exact (congrArg (·.historyLength) hsteps.unreported).trans
        ((totals_historyLength s₀ (accepted steps)).trans (Nat.zero_add _))
    · rw [hsteps.flush_gives_iff rfl hfewer, hevery]
    · rw [hsteps.flush_fails_iff rfl hfewer, hevery]
    · obtain ⟨y, hy, hyx⟩ := List.mem_filterMap.1 hx
      obtain ⟨-, hle, hsummary⟩ := hsteps.summary_eq rfl hy hyx
      refine ⟨hle, ?_⟩
      rw [(summary_eq_ok hsummary).2, totals_clashes]
      exact Nat.zero_add _
  · rintro σ a moves w log history config rfl s hs
    obtain ⟨updates, hstatistics, hlog⟩ := hs.paced
    have hfollows : Follows s₀ updates (s₀.flushes (paced updates)) (s₀.after (paced updates)) :=
      .paced rfl rfl updates
    have hunreported : s.statistics.unreported = s₀.totals updates := by
      rw [hstatistics]
      exact hfollows.unreported
    have hupdates : s.statistics.updates = updates.length :=
      (congrArg (·.updates) hunreported).trans
        ((totals_updates s₀ updates).trans (Nat.zero_add _))
    refine ⟨_, hlog, ⟨updates, hunreported, ?_⟩, fun hsize => ?_⟩
    · rw [hupdates]
      exact summaries_paced rfl rfl updates
    · have hsmall : (s₀.totals updates).historyLength < capacity := hunreported ▸ hsize
      have hall := updates_of_summaries_paced hsmall rfl rfl rfl
      rw [hupdates]
      refine ⟨?_, hall⟩
      rw [← List.length_map (·.updates), hall, List.length_map, List.length_range]

/-- Of two flushes at the second update the first one gives its summary. A refused record does
not make another one due. -/
theorem summary_once_per_due_count_of_two_updates :
    let s₀ := start 2 (by decide)
    let steps : List Step := [.record true 0, .flush, .record false 1]
    let s := s₀.after steps
    let t := s₀.after (steps ++ [.flush, .record false (-1)])
    (∃ x, (flush.run s).1 = .ok (some x)) ∧ t.updates = 2 ∧ t.clashes = 1 ∧
      ¬∃ x, (flush.run t).1 = .ok (some x) := by
  intro s₀ steps s t
  obtain ⟨s₁, hmake, hall, -⟩ := summary_once_per_due_count 2 (by decide)
  obtain rfl : start 2 (by decide) = s₁ := Except.ok.inj hmake
  obtain ⟨-, -, -, -, -, hfirst, -⟩ := hall steps
  obtain ⟨-, hupdates, hclashes, -, -, hsecond, -⟩ := hall (steps ++ [.flush, .record false (-1)])
  have hgiven : ∃ x, (flush.run s).1 = .ok (some x) := by
    refine hfirst.2 ⟨⟨by decide, by decide⟩, by decide +kernel, fun x hx hat => ?_⟩
    obtain rfl : x = ⟨1, .ok none⟩ := List.mem_singleton.1 hx
    exact absurd hat (by decide)
  refine ⟨hgiven, hupdates, hclashes, fun hagain => ?_⟩
  have hfresh := (hsecond.1 hagain).2.2
  have hmem : s.flushed ∈ s₀.flushes (steps ++ [.flush, .record false (-1)]) :=
    List.mem_cons_of_mem _ List.mem_cons_self
  exact hfresh s.flushed hmem rfl hgiven

/-- A summary that is due fails if the average length is too large for a double. -/
theorem due_summary_fails :
    let s₀ := start 1 (by decide)
    let steps : List Step := [.record false (10 ^ 400)]
    let s := s₀.after steps
    (0 < s.updates ∧ (1 : Int) ∣ (s.updates : Int)) ∧ s₀.flushes steps = [] ∧
      (flush.run s).1 = .error .quotientOverflow ∧ ¬∃ x, (flush.run s).1 = .ok (some x) := by
  intro s₀ steps s
  have hinfinite : s.hasAverage = false := by decide +kernel
  have hfollows : Follows s₀ [(false, (10 ^ 400 : Int).toNat)] [] s := (Follows.refl rfl).count _ _
  obtain ⟨f, hf⟩ := (hfollows.flush_fails_iff rfl (by decide)).2
    ⟨⟨by decide, by decide⟩, hinfinite, by simp⟩
  obtain rfl := eq_of_flush_error hf
  refine ⟨⟨by decide, by decide⟩, rfl, hf, ?_⟩
  rintro ⟨x, hx⟩
  cases hf.symm.trans hx

end Statistics
end ExpiryAudit
