import ExpiryAudit.Proofs.DiagnosticLines
import ExpiryAudit.Proofs.Usage
import Mathlib.Data.List.DropRight

/-!
# What a run conserves

The counters of a run, the histories, the calls of the host, the readings of the clock and the
diagnostic lines tell of the same evaluations. Each evaluation adds its part to all of them, so
they agree after every run.
-/
namespace ExpiryAudit

variable {σ : Type}

namespace Evaluation

def slot (x : Evaluation σ) : Slot := ⟨x.key, x.rule.id⟩

/-- The history length that has been counted. -/
def recordedLength (x : Evaluation σ) : Nat :=
  x.middle.statistics.historyLength - x.start.statistics.historyLength

/-- What the evaluation makes of the length of the history of its slot. -/
def grow (n : Nat) (x : Evaluation σ) : Nat := if x.wasReset then 1 else n + 1

end Evaluation

/-- The evaluations of a slot. -/
def evaluationsAt (s : Slot) (xs : List (Evaluation σ)) : List (Evaluation σ) :=
  xs.filter fun x => x.slot = s

/-- The number of evaluations since the last clash, with the clash. If there was no clash, all of
them count, after those from before. -/
def countSinceClash (before : Nat) (xs : List (Evaluation σ)) : Nat :=
  if xs.any fun x => x.wasReset then (xs.rtakeWhile fun x => !decide x.wasReset).length + 1
  else before + xs.length

theorem foldl_grow (n : Nat) (xs : List (Evaluation σ)) :
    xs.foldl Evaluation.grow n = countSinceClash n xs := by
  induction xs using List.reverseRecOn with
  | nil => rfl
  | append_singleton xs x ih =>
    rw [List.foldl_append, ih, List.foldl_cons, List.foldl_nil, Evaluation.grow]
    by_cases hx : x.wasReset
    · simp [countSinceClash, hx, List.rtakeWhile_concat_neg]
    · by_cases hxs : xs.any fun x => x.wasReset
      · simp [countSinceClash, hx, hxs, List.rtakeWhile_concat_pos]
      · simp [countSinceClash, hx, hxs, Nat.add_assoc]

/-! ## Evaluations one after another -/

/-- What of a session is neither the log nor the count of events. -/
def Session.books (s : Session σ) : (σ × History × Statistics) × Nat := (s.core, s.failures)

namespace Auditor

/-- Evaluations that lead from one session to another. -/
inductive Follow (a : Auditor σ) : Session σ → List (Evaluation σ) → Session σ → Prop
  | done {s t : Session σ} (books : t.books = s.books) : Follow a s [] t
  | next {s t : Session σ} {x : Evaluation σ} {xs : List (Evaluation σ)}
      (books : x.start.books = s.books) (of : x.Of a) (rest : Follow a x.finish xs t) :
      Follow a s (x :: xs) t

namespace Follow

variable {a : Auditor σ} {s t u : Session σ} {xs ys : List (Evaluation σ)}

theorem of_books (h : a.Follow s xs t) (he : s.books = u.books) : a.Follow u xs t := by
  cases h with
  | done books => exact .done (books.trans he)
  | next books of rest => exact .next (books.trans he) of rest

theorem append (h : a.Follow s xs t) (h' : a.Follow t ys u) : a.Follow s (xs ++ ys) u := by
  induction h with
  | done books => exact h'.of_books books
  | next books of _ ih => exact .next books of (ih h')

/-- Every evaluation follows those before it. -/
theorem upto {x : Evaluation σ} (h : a.Follow s (xs ++ x :: ys) t) :
    x.Of a ∧ a.Follow s (xs ++ [x]) x.finish := by
  induction xs generalizing s with
  | nil =>
    cases h with
    | next books of rest => exact ⟨of, .next books of (.done rfl)⟩
  | cons y xs ih =>
    cases h with
    | next books of rest =>
      obtain ⟨hx, hupto⟩ := ih rest
      exact ⟨hx, .next books of hupto⟩

end Follow

variable {a : Auditor σ} {s t : Session σ} {lines : List String}

theorem follow_of_run_judgeAll {key : Text} {pairs : List (Rule × Json)}
    (h : (a.judgeAll key pairs).run s = (.ok lines, t)) :
    a.Follow s (a.evaluationsOf key pairs s) t := by
  induction pairs generalizing s lines with
  | nil =>
    obtain ⟨rfl, rfl⟩ := Act.run_pure_eq_ok h
    exact .done rfl
  | cons pair rest ih =>
    obtain ⟨r, raw⟩ := pair
    obtain ⟨v, s₁, hevaluated, h⟩ := Act.run_bind_eq_ok h
    obtain ⟨line, s₂, hjudged, h⟩ := Act.run_bind_eq_ok h
    obtain ⟨others, s₃, hrest, h⟩ := Act.run_bind_eq_ok h
    obtain ⟨rfl, rfl⟩ := Act.run_pure_eq_ok h
    have hunfold : a.evaluationsOf key ((r, raw) :: rest) s =
        ⟨r, key, .raw raw, s, v, s₁, line, s₂⟩ :: a.evaluationsOf key rest s₂ := by
      simp only [evaluationsOf, hevaluated, hjudged]
    rw [hunfold]
    exact .next rfl ⟨hevaluated, hjudged⟩ (ih hrest)

theorem follow_of_run_process {e : Event} (h : (a.process e).run s = (.ok lines, t)) :
    a.Follow s (a.evaluations e s) t := by
  obtain ⟨raws, s₁, hprepared, h⟩ := Act.run_bind_eq_ok h
  obtain ⟨number, s₂, hcounted, h⟩ := Act.run_bind_eq_ok h
  obtain ⟨found, s₃, hjudged, h⟩ := Act.run_bind_eq_ok h
  obtain ⟨⟨⟩, s₄, hreported, h⟩ := Act.run_bind_eq_ok h
  obtain ⟨rfl, rfl⟩ := Act.run_pure_eq_ok h
  obtain ⟨hraws, rfl⟩ := Act.run_lift_eq_ok hprepared
  obtain ⟨-, rfl⟩ := Prod.mk.inj hcounted
  obtain ⟨log, rfl⟩ := Session.run_report_ok hreported
  have hfollow := (follow_of_run_judgeAll hjudged).of_books (u := s) rfl
  have hdone : a.Follow s₃ [] { s₃ with log := log } := .done rfl
  simp only [evaluations, hraws]
  simpa using hfollow.append hdone

/-- Events that are all processed have one evaluation for every event and rule, and the lines of
these. -/
theorem follow_of_run_processAll {events : List Event}
    (h : (a.processAll events).run s = (.ok lines, t)) :
    a.Follow s (a.evaluationsAll events s) t ∧
      (a.evaluationsAll events s).map (·.request) = a.requests events ∧
      lines = a.linesAll events s := by
  induction events generalizing s lines with
  | nil =>
    obtain ⟨rfl, rfl⟩ := Act.run_pure_eq_ok h
    exact ⟨.done rfl, rfl, rfl⟩
  | cons e rest ih =>
    obtain ⟨found, s₁, hfound, h⟩ := Act.run_bind_eq_ok h
    obtain ⟨more, s₂, hmore, h⟩ := Act.run_bind_eq_ok h
    obtain ⟨rfl, rfl⟩ := Act.run_pure_eq_ok h
    obtain ⟨hfollow, hrequests, rfl⟩ := ih hmore
    have hkept : a.KeptByEvaluations fun _ _ => True := fun _ _ _ _ _ => trivial
    obtain ⟨rfl, -, -⟩ := run_process_ok hkept hfound trivial
    rw [evaluationsAll_cons hfound, linesAll_cons hfound, List.map_append,
      requests_evaluations hfound, hrequests]
    exact ⟨(follow_of_run_process hfound).append hfollow, rfl, rfl⟩

theorem length_requests (a : Auditor σ) (events : List Event) :
    (a.requests events).length = events.length * a.rules.length := by
  simp [requests, List.length_flatMap]

end Auditor

/-! ## The account of evaluations -/

/-- What evaluations have added to everything that is counted. -/
structure Conserves (usage : σ → Usage) (s t : Session σ) (xs : List (Evaluation σ)) : Prop where
  updates : t.statistics.updates = s.statistics.updates + xs.length
  clashes : t.statistics.clashes = s.statistics.clashes + xs.countP fun x => x.wasReset
  historyLength :
    t.statistics.historyLength = s.statistics.historyLength + (xs.map (·.recordedLength)).sum
  failures : t.failures = s.failures + (xs.filterMap (·.line)).length
  usage : usage t.world = (usage s.world).add xs.length (xs.countP fun x => x.wasReset)
  lengths : ∀ slot, (t.history.load slot).length =
    (evaluationsAt slot xs).foldl Evaluation.grow (s.history.load slot).length

namespace Conserves

variable {usage : σ → Usage} {s t u : Session σ} {xs ys : List (Evaluation σ)}

theorem of_books (he : t.books = s.books) : Conserves usage s t [] := by
  obtain ⟨hcore, hfailures⟩ := Prod.mk.inj he
  obtain ⟨hworld, hcore⟩ := Prod.mk.inj hcore
  obtain ⟨hhistory, hstatistics⟩ := Prod.mk.inj hcore
  refine ⟨?_, ?_, ?_, hfailures, ?_, fun slot => ?_⟩
  · rw [hstatistics, List.length_nil, Nat.add_zero]
  · rw [hstatistics, List.countP_nil, Nat.add_zero]
  · rw [hstatistics, List.map_nil, List.sum_nil, Nat.add_zero]
  · rw [hworld]
    rfl
  · rw [hhistory]
    rfl

theorem append (h : Conserves usage s t xs) (h' : Conserves usage t u ys) :
    Conserves usage s u (xs ++ ys) := by
  refine ⟨?_, ?_, ?_, ?_, ?_, fun slot => ?_⟩
  · rw [h'.updates, h.updates, List.length_append, Nat.add_assoc]
  · rw [h'.clashes, h.clashes, List.countP_append, Nat.add_assoc]
  · rw [h'.historyLength, h.historyLength, List.map_append, List.sum_append, Nat.add_assoc]
  · rw [h'.failures, h.failures, List.filterMap_append, List.length_append, Nat.add_assoc]
  · rw [h'.usage, h.usage, Usage.add_add, List.length_append, List.countP_append]
  · rw [h'.lengths, h.lengths, evaluationsAt, evaluationsAt, evaluationsAt, List.filter_append,
      List.foldl_append]

end Conserves

namespace Evaluation.Of

variable {a : Auditor σ} {x : Evaluation σ} {usage : σ → Usage}

theorem finish_statistics (h : x.Of a) : x.finish.statistics = x.middle.statistics := by
  have hcore := Auditor.run_judge_core x.verification x.middle
  rw [h.judged] at hcore
  exact (Prod.mk.inj (Prod.mk.inj hcore).2).2

/-- The history of the slot has one update more than was counted, and other slots stay. -/
theorem lengths (h : x.Of a) : x.recordedLength = x.verification.previous.length ∧
    (x.finish.history.load x.slot).length = x.recordedLength + 1 ∧
    ∀ slot ≠ x.slot, x.finish.history.load slot = x.start.history.load slot := by
  obtain ⟨clash, hcounted⟩ := h.evaluates.counted
  obtain ⟨u, hrecorded⟩ := h.evaluates.recorded fun _ _ => False
  have hlength : x.recordedLength = x.verification.previous.length := by
    rw [recordedLength, hcounted.historyLength, Nat.add_sub_cancel_left]
  rw [hlength, h.finish_history]
  refine ⟨rfl, ?_, fun slot hslot => ?_⟩
  · rw [hrecorded.load, slot, if_pos rfl, List.length_append, List.length_singleton]
  · rw [hrecorded.load]
    exact if_neg hslot

/-- The step: one evaluation adds its part to everything that is counted. -/
theorem conserves (h : x.Of a) (hm : a.environment.Metered usage) :
    Conserves usage x.start x.finish [x] := by
  obtain ⟨clash, hcounted, husage⟩ := h.evaluates.usage_eq hm
  obtain ⟨hrecorded, hslot, hothers⟩ := h.lengths
  have hreset : clash = decide x.wasReset := by
    have hiff : x.wasReset ↔ clash = true := by
      unfold wasReset
      rw [hcounted.clashes]
      cases clash <;> simp
    simp [hiff]
  have hfailures : x.finish.failures = x.start.failures + x.line.toList.length := by
    rw [Auditor.run_judge_failures h.judged,
      (a.evaluate_keeps_failures _ _ _ x.start.failures).of_run h.evaluated rfl]
  refine ⟨?_, ?_, ?_, ?_, ?_, fun slot => ?_⟩
  · rw [h.finish_statistics, hcounted.updates, List.length_singleton]
  · rw [h.finish_statistics, hcounted.clashes, hreset, List.countP_singleton]
    cases decide x.wasReset <;> rfl
  · rw [h.finish_statistics, hcounted.historyLength, List.map_singleton, List.sum_singleton,
      hrecorded]
  · rw [hfailures]
    cases hline : x.line <;> simp [hline]
  · rw [h.finish_world, husage, hreset, List.countP_singleton, List.length_singleton]
    cases decide x.wasReset <;> rfl
  · by_cases hx : x.slot = slot
    · subst hx
      have hat : evaluationsAt x.slot [x] = [x] := by simp [evaluationsAt]
      rw [hslot, hrecorded, h.records.previous, hat, List.foldl_cons, List.foldl_nil, grow]
      split <;> rfl
    · rw [hothers slot (Ne.symm hx)]
      simp [evaluationsAt, hx]

end Evaluation.Of

/-- The run: evaluations that follow each other add all their parts. -/
theorem Auditor.Follow.conserves {a : Auditor σ} {usage : σ → Usage}
    (hm : a.environment.Metered usage) {s t : Session σ} {xs : List (Evaluation σ)}
    (h : a.Follow s xs t) : Conserves usage s t xs := by
  induction h with
  | done books => exact .of_books books
  | next books of _ ih => exact (Conserves.of_books books).append ((of.conserves hm).append ih)

namespace Auditor

/-- What agrees after every run in which all events are processed, against any host and with any
clock: there is one update for every event and rule, a handle is opened for each, cleared for each
clash and written for both, with two readings of the clock for each write. After each evaluation
the history of its slot has one update more than was counted, and one for each evaluation since
the last clash. The counted lengths sum up to the total, and each failure has its line. -/
theorem run_conserves {κ η : Type} {clock : Act κ Int} {host : Host η} {rules : List Rule}
    {config : Config} {a : Auditor (Traced (κ × Nat) η)}
    (ha : make rules config (.traced clock.counted host) = .ok a) {k : κ} {w : η} {log : Log}
    {history : History} {events : List Event} {lines : List String}
    {s : Session (Traced (κ × Nat) η)}
    (h : (a.processAll events).run (.start ((k, 0), w, []) log history config) = (.ok lines, s)) :
    let xs := a.evaluationsAll events (.start ((k, 0), w, []) log history config)
    xs.map (·.request) = a.requests events ∧
      s.statistics.updates = events.length * rules.length ∧
      s.world.calls.countP HostCall.isClear = s.statistics.clashes ∧
      s.world.calls.countP HostCall.isAcquire = s.statistics.updates ∧
      s.world.calls.countP HostCall.isWrite = s.statistics.updates + s.statistics.clashes ∧
      s.world.1.2 = 2 * (s.statistics.updates + s.statistics.clashes) ∧
      (∀ before x after, xs = before ++ x :: after →
        x.recordedLength = x.verification.previous.length ∧
        (x.finish.history.load x.slot).length = x.recordedLength + 1 ∧
        (x.finish.history.load x.slot).length = countSinceClash (history.load x.slot).length
          (evaluationsAt x.slot (before ++ [x]))) ∧
      s.statistics.historyLength = (xs.map (·.recordedLength)).sum ∧
      s.failures = lines.length := by
  intro xs
  obtain ⟨rfl, -, henvironment⟩ := make_eq_ok ha
  have hm : a.environment.Metered Traced.usage := by
    rw [henvironment]
    exact Traced.metered clock host
  obtain ⟨hfollow, hrequests, rfl⟩ := follow_of_run_processAll h
  have hall := hfollow.conserves hm
  have hlength : xs.length = events.length * a.rules.length := by
    rw [← a.length_requests events, ← hrequests, List.length_map]
  have hupdates : s.statistics.updates = xs.length := hall.updates.trans (Nat.zero_add _)
  have hclashes : s.statistics.clashes = xs.countP fun x => x.wasReset :=
    hall.clashes.trans (Nat.zero_add _)
  have husage : s.world.usage =
      Usage.add ⟨0, 0, 0, 0⟩ s.statistics.updates s.statistics.clashes := by
    rw [hupdates, hclashes]
    exact hall.usage
  obtain ⟨hopens, hwrites, hclears, hreadings⟩ := Usage.mk.inj husage
  rw [Nat.zero_add] at hopens hwrites hclears hreadings
  refine ⟨hrequests, hupdates.trans hlength, hclears, hopens, hwrites, hreadings,
    fun before x after hxs => ?_, hall.historyLength.trans (Nat.zero_add _),
    hall.failures.trans (Nat.zero_add _)⟩
  have hsplit : a.Follow _ xs s := hfollow
  rw [hxs] at hsplit
  obtain ⟨hof, hupto⟩ := hsplit.upto
  obtain ⟨hrecorded, hslot, -⟩ := hof.lengths
  refine ⟨hrecorded, hslot, ?_⟩
  rw [(hupto.conserves hm).lengths, foldl_grow]
  rfl

/-- The second of three updates clashes with the first. -/
theorem run_conserves_of_three_events :
    let config : Config := ⟨.ofInt 10 (by decide), .ofInt 1000 (by decide)⟩
    let rules : List Rule := [⟨.value, .whole config.lifetime⟩]
    let clock : Act TimeSource Int := TimeSource.now
    let readings : List Int := [0, 1, 5, 12, 13, 14, 15, 16]
    let e : Event := ⟨"k", .obj [("value", .int 1)], by decide⟩
    let start : Session (Traced (TimeSource × Nat) Script) :=
      .start ((.scripted readings 0, 0), ⟨[], [], [], []⟩, []) .lenient .empty config
    ∃ a, make rules config (.traced clock.counted Script.host) = .ok a ∧
      ∃ lines s, (a.processAll [e, e, e]).run start = (.ok lines, s) ∧
        s.statistics.updates = 3 ∧ s.statistics.clashes = 1 ∧
        s.world.calls.countP HostCall.isClear = 1 ∧ s.world.calls.countP HostCall.isAcquire = 3 ∧
        s.world.calls.countP HostCall.isWrite = 4 ∧ s.world.1.2 = 8 ∧ s.failures = lines.length ∧
        (s.history.load ⟨"k", "value"⟩).length = 2 := by
  intro config rules clock readings e start
  let a : Auditor (Traced (TimeSource × Nat) Script) :=
    ⟨rules, ⟨10, by decide⟩, .traced clock.counted Script.host, by decide⟩
  have ha : make rules config (.traced clock.counted Script.host) = .ok a := rfl
  have hok : ((a.processAll [e, e, e]).run start).1.isOk = true := by decide +kernel
  have hone : ((a.processAll [e, e, e]).run start).2.statistics.clashes = 1 := by decide +kernel
  have htwo : (((a.processAll [e, e, e]).run start).2.history.load ⟨"k", "value"⟩).length = 2 := by
    decide +kernel
  cases hrun : (a.processAll [e, e, e]).run start with
  | mk result s =>
    rw [hrun] at hok hone htwo
    cases result with
    | error f => cases hok
    | ok lines =>
      dsimp only at hone htwo
      obtain ⟨-, hupdates, hclears, hopens, hwrites, hreadings, -, -, hfailures⟩ :=
        run_conserves ha hrun
      have hthree : s.statistics.updates = 3 := hupdates
      rw [hone] at hclears hwrites hreadings
      rw [hthree] at hopens hwrites hreadings
      exact ⟨a, ha, lines, s, hrun, hthree, hone, hclears, hopens, hwrites, hreadings, hfailures,
        htwo⟩

end Auditor

end ExpiryAudit
