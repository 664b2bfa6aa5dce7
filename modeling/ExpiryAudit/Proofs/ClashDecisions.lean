import ExpiryAudit.Proofs.ServiceAnswers

/-!
# Decisions about a clash

Whether a window is ambiguous is decided in several places: by a detector, by a question to the
service, and by two of its scenarios, one of which also shows the inequalities of a clash. They
all come to the same decision, also for windows that are both too slow and clashing. A scenario
shows sums and differences of the instants that it is given. If one of these has too many digits,
the scenario reports that in place of its decision.
-/
namespace ExpiryAudit

/-! ## Verdicts -/

namespace Detector

variable {d : Detector} {w : Window} {history : List Window}

/-- An entry of a history that clashes with a candidate, while none before it does. -/
def IsFirstClash (d : Detector) (w : Window) (history : List Window) (e : Window) : Prop :=
  d.clashes e w = true ∧ ∃ earlier later, history = earlier ++ e :: later ∧
    ∀ x ∈ earlier, d.clashes x w = false

theorem firstClash_eq_some_iff {e : Window} :
    d.firstClash w history = some e ↔ d.IsFirstClash w history e := by
  simp [firstClash, IsFirstClash, List.find?_eq_some_iff_append]

theorem clashes_iff {e : Window} : d.clashes e w = true ↔
    w.before ≤ e.after + d.lifetime ∧ e.before + d.lifetime ≤ w.after := by
  simp [clashes]

/-- A reason is that of the verdict on a window. -/
structure IsReason (d : Detector) (w : Window) (history : List Window) (reason : String) :
    Prop where
  tooSlow : reason = "TOO_SLOW" ↔ d.tooSlow w = true
  clash : reason = "CLASH" ↔ d.tooSlow w = false ∧ ∃ e ∈ history, d.clashes e w = true
  clean : reason = "CLEAN" ↔ d.tooSlow w = false ∧ ∀ e ∈ history, d.clashes e w = false
  ambiguous : reason ≠ "CLEAN" ↔ d.isAmbiguous w history = true

theorem isReason_judge (d : Detector) (w : Window) (history : List Window) :
    d.IsReason w history (d.judge w history).reason := by
  have hambiguous : (d.judge w history).reason ≠ "CLEAN" ↔ d.isAmbiguous w history = true :=
    (Verdict.isAmbiguous_iff_reason_ne _).symm
  rw [reason_judge] at hambiguous ⊢
  cases hslow : d.tooSlow w with
  | true =>
    exact ⟨by simp [hslow], by simp [hslow], by simp [hslow], by simpa [hslow] using hambiguous⟩
  | false =>
    cases hany : history.any fun e => d.clashes e w with
    | true =>
      have hsome : ∃ e ∈ history, d.clashes e w = true := List.any_eq_true.1 hany
      have hnotAll : ¬∀ e ∈ history, d.clashes e w = false := by simpa using hsome
      exact ⟨by simp [hslow], by simp [hslow, hsome], by simp [hslow, hnotAll],
        by simpa [hslow, hany] using hambiguous⟩
    | false =>
      have hnone : ∀ e ∈ history, d.clashes e w = false := by simpa using hany
      have hnoSome : ¬∃ e ∈ history, d.clashes e w = true := by simpa using hnone
      exact ⟨by simp [hslow], by simp [hslow, hnoSome], by simpa [hslow] using hnone,
        by simpa [hslow, hany] using hambiguous⟩

/-- The judgement with a detector made for the purpose is that of the detector. -/
theorem isAmbiguous_lifetime (d : Detector) (w : Window) (history : List Window) :
    ExpiryAudit.isAmbiguous d.lifetime w history = .ok (d.isAmbiguous w history) := by
  unfold ExpiryAudit.isAmbiguous
  rw [make_eq_ok_iff.2 rfl]
  rfl

end Detector

/-! ## Questions -/

namespace Service

/-- How a question is decided, with the reason and the entry that are told. -/
structure ClashQuery.Decided (q : ClashQuery) (answer : Response) (reason : String)
    (found : Json) : Prop where
  status : answer.status = 200
  json : answer.json = .obj [("ambiguous", .bool (q.detector.isAmbiguous q.candidate q.history)),
    ("reason", .str reason), ("clash_with", found)]
  writable : answer.json.isWritable = true
  functional : isAmbiguous q.detector.lifetime q.candidate q.history =
    .ok (q.detector.isAmbiguous q.candidate q.history)
  isReason : q.detector.IsReason q.candidate q.history reason
  foundNone : reason ≠ "CLASH" → found = .null
  foundFirst : reason = "CLASH" →
    ∃ e, q.detector.IsFirstClash q.candidate q.history e ∧ found = windowJson e

theorem ClashQuery.exists_decided {data : Json} {q : ClashQuery} (h : q.BuiltFrom data)
    (hdata : data.isWritable = true) :
    ∃ reason found, q.Decided (checkClash data) reason found := by
  have hanswer : checkClash data = ⟨200, q.answer⟩ := by
    rw [checkClash, ofJson_eq_ok_iff.2 h]
  have hfirst : ∀ e, q.detector.judge q.candidate q.history = .clash e →
      q.detector.IsFirstClash q.candidate q.history e := by
    intro e he
    unfold Detector.judge at he
    split at he
    · cases he
    · split at he
      · next hfound =>
        cases he
        exact Detector.firstClash_eq_some_iff.1 hfound
      · cases he
  rw [hanswer]
  refine ⟨_, _, ⟨rfl, rfl, isWritable_answer h hdata, q.detector.isAmbiguous_lifetime _ _,
    q.detector.isReason_judge _ _, fun hreason => ?_, fun hreason => ?_⟩⟩
  · cases hverdict : q.detector.judge q.candidate q.history with
    | clean | tooSlow => rfl
    | clash e =>
      rw [hverdict] at hreason
      exact absurd rfl hreason
  · cases hverdict : q.detector.judge q.candidate q.history with
    | clean | tooSlow =>
      rw [hverdict] at hreason
      exact absurd hreason (by decide)
    | clash e => exact ⟨e, hfirst e hverdict, rfl⟩

end Service

/-! ## Scenarios -/

/-- A field that stands for a whole number. -/
def Json.HasWhole (v : Json) (name : Text) (n : Int) : Prop :=
  ∃ x, v.field name = .ok x ∧ x.toInt = .ok n

theorem Json.HasWhole.isWritable {v : Json} {name : Text} {n : Int} (h : v.HasWhole name n)
    (hv : v.isWritable = true) : Text.isWritable n = true := by
  obtain ⟨x, hx, hn⟩ := h
  exact Json.isWritable_of_toInt hn (Json.isWritable_of_field hx hv)

theorem Window.ofFields_of_hasWhole {v : Json} {before after : Text} {w : Window}
    (hbefore : v.HasWhole before w.before) (hafter : v.HasWhole after w.after) :
    ofFields v before after = .ok w := by
  obtain ⟨b, hb, hbefore⟩ := hbefore
  obtain ⟨a, ha, hafter⟩ := hafter
  refine bind_eq_ok hb (bind_eq_ok hbefore (bind_eq_ok ha (bind_eq_ok hafter ?_)))
  exact make_eq_ok_iff.2 ⟨rfl, rfl⟩

theorem Json.agrees_str_iff {v : Json} {s : String} : v.agrees (.str s) = true ↔ v = .str s := by
  cases v with
  | float x => cases x <;> simp [agrees, whole?]
  | _ => simp [agrees, whole?]

namespace Scenario

/-- The windows and the lifetime that the parameters of the overlap scenario give. -/
structure GivesOverlap (params : Params) (d : Detector) (earlier w : Window) : Prop where
  lifetime : (Json.obj params).HasWhole "ttl_ms" d.lifetime
  earlier_before : (Json.obj params).HasWhole "prev_before_ts" earlier.before
  earlier_after : (Json.obj params).HasWhole "prev_after_ts" earlier.after
  before : (Json.obj params).HasWhole "before_ts" w.before
  after : (Json.obj params).HasWhole "after_ts" w.after

/-- The window and the lifetime that the parameters of the scenario of one window give. -/
structure GivesWindow (params : Params) (d : Detector) (w : Window) : Prop where
  lifetime : (Json.obj params).HasWhole "ttl_ms" d.lifetime
  before : (Json.obj params).HasWhole "before_ts" w.before
  after : (Json.obj params).HasWhole "after_ts" w.after

theorem detector_of_hasWhole {params : Params} {d : Detector}
    (h : (Json.obj params).HasWhole "ttl_ms" d.lifetime) : detector params = .ok d := by
  obtain ⟨x, hx, hlifetime⟩ := h
  exact bind_eq_ok hx (bind_eq_ok hlifetime (Detector.make_eq_ok_iff.2 rfl))

/-- An ambiguous outcome is expected if the answer to that is yes or is left out. -/
theorem expectsAmbiguity_iff (params : Params) : expectsAmbiguity params = true ↔
    ∀ v, Named.find? params "expect_ambiguous" = some v → v = .str "yes" := by
  unfold expectsAmbiguity
  cases Named.find? params "expect_ambiguous" with
  | none => simp [Json.agrees]
  | some v => simp [Json.agrees_str_iff]

/-! ### Explanations -/

theorem numberText_of_isWritable {n : Int} (h : Text.isWritable n = true) :
    numberText n = .ok (Text.decimalText n) := if_pos h

theorem numberText_of_not_isWritable {n : Int} (h : Text.isWritable n = false) :
    numberText n = .error .unwritable := if_neg (by simp [h])

/-- How the outcome of a comparison is shown. -/
def shownOutcome (holds : Bool) : String := if holds then "True" else "False"

theorem display_bool (b : Bool) : (Json.bool b).display = shownOutcome b := by
  cases b <;> decide

/-- The two inequalities of a clash, with an outcome for each. -/
def overlapText (d : Detector) (earlier w : Window) (first second : Bool) : String :=
  "prev.after+ttl=" ++ Text.decimalText (earlier.after + d.lifetime) ++ " >= before=" ++
    Text.decimalText w.before ++ ": " ++ shownOutcome first ++
    "; prev.before+ttl=" ++ Text.decimalText (earlier.before + d.lifetime) ++ " <= after=" ++
    Text.decimalText w.after ++ ": " ++ shownOutcome second

/-- How long a window is, with the outcome. -/
def tooSlowText (d : Detector) (w : Window) : String :=
  "Update took " ++ Text.decimalText w.duration ++ "ms with ttl=" ++
    Text.decimalText d.lifetime ++ "ms: " ++
    if d.tooSlow w then "too slow, expiry may have fired mid-update" else "fast enough"

theorem explainOverlap_eq_ok {d : Detector} {earlier w : Window}
    (hbefore : Text.isWritable w.before = true) (hafter : Text.isWritable w.after = true)
    (hfirst : Text.isWritable (earlier.after + d.lifetime) = true)
    (hsecond : Text.isWritable (earlier.before + d.lifetime) = true) :
    explainOverlap d earlier w = .ok (overlapText d earlier w
      (decide (w.before ≤ earlier.after + d.lifetime))
      (decide (earlier.before + d.lifetime ≤ w.after))) := by
  unfold explainOverlap
  dsimp only
  rw [numberText_of_isWritable hfirst, numberText_of_isWritable hbefore,
    numberText_of_isWritable hsecond, numberText_of_isWritable hafter, display_bool, display_bool]
  rfl

/-- An explanation fails if it cannot show one of its sums. -/
theorem explainOverlap_eq_error {d : Detector} {earlier w : Window}
    (hbefore : Text.isWritable w.before = true)
    (h : ¬(Text.isWritable (earlier.after + d.lifetime) = true ∧
      Text.isWritable (earlier.before + d.lifetime) = true)) :
    explainOverlap d earlier w = .error .unwritable := by
  unfold explainOverlap
  dsimp only
  cases hfirst : Text.isWritable (earlier.after + d.lifetime) with
  | false =>
    rw [numberText_of_not_isWritable hfirst]
    rfl
  | true =>
    have hsecond : Text.isWritable (earlier.before + d.lifetime) = false := by
      simpa [hfirst] using h
    rw [numberText_of_isWritable hfirst, numberText_of_isWritable hbefore,
      numberText_of_not_isWritable hsecond]
    rfl

theorem explainTooSlow_eq_ok {d : Detector} {w : Window}
    (hlifetime : Text.isWritable d.lifetime = true)
    (hduration : Text.isWritable w.duration = true) :
    explainTooSlow d w = .ok (tooSlowText d w) := by
  unfold explainTooSlow
  rw [numberText_of_isWritable hduration, numberText_of_isWritable hlifetime]
  rfl

theorem explainTooSlow_eq_error {d : Detector} {w : Window}
    (hduration : Text.isWritable w.duration = false) :
    explainTooSlow d w = .error .unwritable := by
  unfold explainTooSlow
  rw [numberText_of_not_isWritable hduration]
  rfl

end Scenario

namespace Service

/-- A body that asks for a run of a scenario with some parameters. -/
def AsksFor (data : Json) (s : Scenario) (params : Scenario.Params) : Prop :=
  ∃ members, data = .obj members ∧ Named.find? members "scenario" = some (.str s.id) ∧
    (Named.find? members "params").getD (.obj []) = .obj params

theorem AsksFor.runTest_eq {data : Json} {s : Scenario} {params : Scenario.Params}
    (h : AsksFor data s params) : runTest data = runScenario s params := by
  obtain ⟨members, rfl, hscenario, hparams⟩ := h
  have hof : scenarioOf? (.str s.id) = some s := by cases s <;> decide
  unfold runTest
  simp [hscenario, hparams, hof]

theorem AsksFor.isWritable_params {data : Json} {s : Scenario} {params : Scenario.Params}
    (h : AsksFor data s params) (hdata : data.isWritable = true) :
    (Json.obj params).isWritable = true := by
  obtain ⟨members, rfl, -, hparams⟩ := h
  rw [← hparams]
  cases hfind : Named.find? members "params" with
  | none => rfl
  | some v => exact Json.isWritable_obj_iff.1 hdata _ (Named.mem_of_find? hfind)

/-- The report of an outcome, and of what was expected. -/
def reported (ambiguous expected : Bool) (explanation : String) : Response :=
  ⟨200, .obj [("passed", .bool (ambiguous == expected)), ("ambiguous", .bool ambiguous),
    ("expected_ambiguous", .bool expected), ("explanation", .str explanation)]⟩

/-- The report of a scenario that cannot show one of its numbers. -/
def unexplained : Response :=
  ⟨200, .obj [("passed", .bool false), ("error", .str Text.unwritableMessage)]⟩

theorem runScenario_overlap {params : Scenario.Params} {d : Detector} {earlier w : Window}
    (h : Scenario.GivesOverlap params d earlier w) (hparams : (Json.obj params).isWritable = true) :
    runScenario .overlap params =
      if Text.isWritable (earlier.after + d.lifetime) = true ∧
          Text.isWritable (earlier.before + d.lifetime) = true then
        reported (d.isAmbiguous w [earlier]) (Scenario.expectsAmbiguity params)
          (Scenario.overlapText d earlier w (decide (w.before ≤ earlier.after + d.lifetime))
            (decide (earlier.before + d.lifetime ≤ w.after)))
      else unexplained := by
  have hearlier := Window.ofFields_of_hasWhole h.earlier_before h.earlier_after
  have hw := Window.ofFields_of_hasWhole h.before h.after
  have hbefore := h.before.isWritable hparams
  rw [runScenario, Scenario.run, Scenario.runOverlap, Scenario.detector_of_hasWhole h.lifetime,
    hearlier, hw]
  by_cases hsums : Text.isWritable (earlier.after + d.lifetime) = true ∧
      Text.isWritable (earlier.before + d.lifetime) = true
  · rw [if_pos hsums]
    dsimp only [bind, Except.bind]
    rw [Scenario.explainOverlap_eq_ok hbefore (h.after.isWritable hparams) hsums.1 hsums.2]
    rfl
  · rw [if_neg hsums]
    dsimp only [bind, Except.bind]
    rw [Scenario.explainOverlap_eq_error hbefore hsums]
    rfl

theorem runScenario_tooSlow {params : Scenario.Params} {d : Detector} {w : Window}
    (h : Scenario.GivesWindow params d w) (hparams : (Json.obj params).isWritable = true) :
    runScenario .tooSlow params =
      if Text.isWritable w.duration = true then
        reported (d.isAmbiguous w []) (Scenario.expectsAmbiguity params)
          (Scenario.tooSlowText d w)
      else unexplained := by
  have hw := Window.ofFields_of_hasWhole h.before h.after
  rw [runScenario, Scenario.run, Scenario.runTooSlow, Scenario.detector_of_hasWhole h.lifetime, hw]
  cases hduration : Text.isWritable w.duration with
  | true =>
    rw [if_pos rfl]
    dsimp only [bind, Except.bind]
    rw [Scenario.explainTooSlow_eq_ok (h.lifetime.isWritable hparams) hduration]
    rfl
  | false =>
    rw [if_neg Bool.false_ne_true]
    dsimp only [bind, Except.bind]
    rw [Scenario.explainTooSlow_eq_error hduration]
    rfl

/-! ## Agreement -/

/-- Every value from which the question can be built is decided in the same way. -/
def SameDecision (q : ClashQuery) (answer : Response) : Prop :=
  ∀ v, v.isWritable = true → q.BuiltFrom (dataOf v) →
    (answerBody (.ok v) checkClash).status = 200 ∧
      (answerBody (.ok v) checkClash).json.field "ambiguous" = answer.json.field "ambiguous"

/-- What the overlap scenario reports. -/
structure OverlapReported (params : Scenario.Params) (d : Detector) (earlier w : Window)
    (answer : Response) : Prop where
  explained : Text.isWritable (earlier.after + d.lifetime) = true →
    Text.isWritable (earlier.before + d.lifetime) = true →
    SameDecision ⟨d, w, [earlier]⟩ answer ∧
    ∃ expected first second,
      answer = reported (d.isAmbiguous w [earlier]) expected
        (Scenario.overlapText d earlier w first second) ∧
      (expected = true ↔
        ∀ v, Named.find? params "expect_ambiguous" = some v → v = .str "yes") ∧
      (first = true ↔ w.before ≤ earlier.after + d.lifetime) ∧
      (second = true ↔ earlier.before + d.lifetime ≤ w.after) ∧
      (first = true ∧ second = true ↔ d.clashes earlier w = true)
  oversize : ¬(Text.isWritable (earlier.after + d.lifetime) = true ∧
    Text.isWritable (earlier.before + d.lifetime) = true) → answer = unexplained

/-- What the scenario of one window reports. -/
structure TooSlowReported (params : Scenario.Params) (d : Detector) (w : Window)
    (answer : Response) : Prop where
  explained : Text.isWritable w.duration = true →
    SameDecision ⟨d, w, []⟩ answer ∧
    ∃ expected,
      answer = reported (d.isAmbiguous w []) expected (Scenario.tooSlowText d w) ∧
      (expected = true ↔
        ∀ v, Named.find? params "expect_ambiguous" = some v → v = .str "yes") ∧
      (d.isAmbiguous w [] = true ↔ d.tooSlow w = true)
  oversize : ¬Text.isWritable w.duration = true → answer = unexplained

theorem sameDecision_reported (q : ClashQuery) (expected : Bool) (explanation : String) :
    SameDecision q (reported (q.detector.isAmbiguous q.candidate q.history) expected
      explanation) := by
  intro v hv hq
  obtain ⟨reason, found, hdecided⟩ := ClashQuery.exists_decided hq (isWritable_dataOf hv)
  refine ⟨hdecided.status, ?_⟩
  rw [answerBody, hdecided.json]
  rfl

theorem overlapReported_runScenario {params : Scenario.Params} {d : Detector}
    {earlier w : Window} (h : Scenario.GivesOverlap params d earlier w)
    (hparams : (Json.obj params).isWritable = true) :
    OverlapReported params d earlier w (runScenario .overlap params) := by
  rw [runScenario_overlap h hparams]
  refine ⟨fun hfirst hsecond => ?_, fun hsums => if_neg hsums⟩
  rw [if_pos ⟨hfirst, hsecond⟩]
  refine ⟨sameDecision_reported ⟨d, w, [earlier]⟩ _ _, _, _, _, rfl,
    Scenario.expectsAmbiguity_iff params, decide_eq_true_iff, decide_eq_true_iff, ?_⟩
  rw [decide_eq_true_iff, decide_eq_true_iff, Detector.clashes_iff]

theorem tooSlowReported_runScenario {params : Scenario.Params} {d : Detector} {w : Window}
    (h : Scenario.GivesWindow params d w) (hparams : (Json.obj params).isWritable = true) :
    TooSlowReported params d w (runScenario .tooSlow params) := by
  rw [runScenario_tooSlow h hparams]
  refine ⟨fun hduration => ?_, fun hduration => if_neg hduration⟩
  rw [if_pos hduration]
  refine ⟨sameDecision_reported ⟨d, w, []⟩ _ _, _, rfl,
    Scenario.expectsAmbiguity_iff params, ?_⟩
  rw [← (d.isReason_judge w []).ambiguous, Ne, (d.isReason_judge w []).clean]
  simp

/-! ## Values with given windows -/

/-- A value that asks a question. -/
def ClashQuery.body (q : ClashQuery) : Json :=
  .obj [("ttl_ms", .int q.detector.lifetime), ("candidate", windowJson q.candidate),
    ("history", .arr (q.history.map windowJson))]

theorem givesWindow_windowJson (w : Window) : (windowJson w).GivesWindow w :=
  ⟨⟨_, rfl, rfl⟩, _, rfl, rfl⟩

theorem ClashQuery.builtFrom_body (q : ClashQuery) : q.BuiltFrom q.body where
  detector := ⟨_, rfl, rfl⟩
  candidate := ⟨_, rfl, givesWindow_windowJson _⟩
  history := ⟨_, _, rfl, rfl,
    List.forall₂_map_left_iff.2 (List.forall₂_same.2 fun w _ => givesWindow_windowJson w)⟩

theorem restored_windowJson {w : Window} (h : w.isWritable = true) (room : Nat) :
    Json.Restored (room + 1) (windowJson w) := by
  obtain ⟨hbefore, hafter⟩ := (Bool.and_eq_true _ _).mp h
  refine .obj (by simp [Named.Distinct]) ?_
  simp [Json.Restored.null, Json.Restored.int hbefore, Json.Restored.int hafter]

/-- Every question whose numbers do not have too many digits can be asked. -/
theorem ClashQuery.restored_body {q : ClashQuery}
    (hlifetime : Text.isWritable q.detector.lifetime = true)
    (hall : ∀ w ∈ q.candidate :: q.history, w.isWritable = true) :
    Json.Restored Json.depthLimit q.body := by
  obtain ⟨hcandidate, hhistory⟩ := List.forall_mem_cons.1 hall
  refine .obj (by simp [Named.Distinct]) (List.forall_mem_cons.2 ⟨.int hlifetime,
    List.forall_mem_cons.2 ⟨restored_windowJson hcandidate _,
      List.forall_mem_singleton.2 (.arr fun v hv => ?_)⟩⟩)
  obtain ⟨w, hw, rfl⟩ := List.mem_map.1 hv
  exact restored_windowJson (hhistory w hw) _

/-- A value that asks for a run of a scenario. -/
def scenarioBody (s : Scenario) (params : Scenario.Params) : Json :=
  .obj [("scenario", .str s.id), ("params", .obj params)]

theorem asksFor_scenarioBody (s : Scenario) (params : Scenario.Params) :
    AsksFor (scenarioBody s params) s params := ⟨_, rfl, rfl, rfl⟩

/-- Parameters that are whole numbers. -/
def numberParams (numbers : List (Text × Int)) : Scenario.Params :=
  numbers.map fun m => (m.1, .int m.2)

theorem restored_scenarioBody (s : Scenario) {numbers : List (Text × Int)}
    (hdistinct : Named.Distinct numbers) (hall : ∀ m ∈ numbers, Text.isWritable m.2 = true) :
    Json.Restored Json.depthLimit (scenarioBody s (numberParams numbers)) := by
  refine .obj (by simp [Named.Distinct]) (List.forall_mem_cons.2 ⟨.str,
    List.forall_mem_singleton.2 (.obj (hdistinct.map Json.int) fun m hm => ?_)⟩)
  obtain ⟨e, he, rfl⟩ := List.mem_map.1 hm
  exact .int (hall e he)

/-- The numbers of the overlap scenario. -/
def overlapNumbers (d : Detector) (earlier w : Window) : List (Text × Int) :=
  [("ttl_ms", d.lifetime), ("prev_before_ts", earlier.before), ("prev_after_ts", earlier.after),
    ("before_ts", w.before), ("after_ts", w.after)]

theorem givesOverlap_overlapNumbers (d : Detector) (earlier w : Window) :
    Scenario.GivesOverlap (numberParams (overlapNumbers d earlier w)) d earlier w :=
  ⟨⟨_, rfl, rfl⟩, ⟨_, rfl, rfl⟩, ⟨_, rfl, rfl⟩, ⟨_, rfl, rfl⟩, ⟨_, rfl, rfl⟩⟩

theorem restored_overlapNumbers {d : Detector} {earlier w : Window}
    (hlifetime : Text.isWritable d.lifetime = true) (hearlier : earlier.isWritable = true)
    (hw : w.isWritable = true) : Json.Restored Json.depthLimit
      (scenarioBody .overlap (numberParams (overlapNumbers d earlier w))) := by
  obtain ⟨hfirst, hsecond⟩ := (Bool.and_eq_true _ _).mp hearlier
  obtain ⟨hbefore, hafter⟩ := (Bool.and_eq_true _ _).mp hw
  refine restored_scenarioBody _ (by simp [overlapNumbers, Named.Distinct]) ?_
  simp [overlapNumbers, hlifetime, hfirst, hsecond, hbefore, hafter]

/-! ## All decisions -/

/-- A question to the service and the two scenarios come to the decision of the detector. The
scenarios report it together with what was expected, unless they have to show a number with too
many digits. No number that is read from a body has too many. -/
theorem clash_decisions_agree {found : Json} (hfound : found.isWritable = true) :
    (∀ q : ClashQuery, q.BuiltFrom (dataOf found) →
      ∃ reason told, q.Decided (answerBody (.ok found) checkClash) reason told) ∧
    (∀ params d earlier w, AsksFor (dataOf found) .overlap params →
      Scenario.GivesOverlap params d earlier w →
      OverlapReported params d earlier w (answerBody (.ok found) runTest)) ∧
    (∀ params d w, AsksFor (dataOf found) .tooSlow params →
      Scenario.GivesWindow params d w →
      TooSlowReported params d w (answerBody (.ok found) runTest)) := by
  have hwritable := isWritable_dataOf hfound
  refine ⟨fun q hq => ClashQuery.exists_decided hq hwritable,
    fun params d earlier w hasks hgives => ?_, fun params d w hasks hgives => ?_⟩
  · rw [answerBody, hasks.runTest_eq]
    exact overlapReported_runScenario hgives (hasks.isWritable_params hwritable)
  · rw [answerBody, hasks.runTest_eq]
    exact tooSlowReported_runScenario hgives (hasks.isWritable_params hwritable)

/-- Two windows that meet in one instant when the earlier one is moved by the lifetime. -/
def meeting : ClashQuery := ⟨⟨50, by decide⟩, ⟨140, 145, by decide⟩, [⟨80, 90, by decide⟩]⟩

theorem clash_decisions_agree_of_meeting_windows :
    (Json.parse (meeting.body.write .spaced) = .ok meeting.body ∧ meeting.BuiltFrom meeting.body ∧
      ∃ reason told, meeting.Decided (answerBody (.ok meeting.body) checkClash) reason told) ∧
    ∃ found params d earlier w, meeting = ⟨d, w, [earlier]⟩ ∧
      Json.parse (found.write .spaced) = .ok found ∧ AsksFor found .overlap params ∧
      Scenario.GivesOverlap params d earlier w ∧
      OverlapReported params d earlier w (answerBody (.ok found) runTest) ∧
      ∃ expected explanation,
        answerBody (.ok found) runTest = reported true expected explanation := by
  have hquestion := meeting.restored_body (by decide +kernel) (by decide +kernel)
  have hbody := @restored_overlapNumbers meeting.detector ⟨80, 90, by decide⟩ meeting.candidate
    (by decide +kernel) (by decide +kernel) (by decide +kernel)
  have hgives := givesOverlap_overlapNumbers meeting.detector ⟨80, 90, by decide⟩ meeting.candidate
  have hreported := (clash_decisions_agree hbody.isWritable).2.1 _ _ _ _
    (asksFor_scenarioBody _ _) hgives
  obtain ⟨-, expected, first, second, htold, -⟩ :=
    hreported.explained (by decide +kernel) (by decide +kernel)
  exact ⟨⟨hquestion.parse_write, meeting.builtFrom_body,
      (clash_decisions_agree hquestion.isWritable).1 _ meeting.builtFrom_body⟩,
    _, _, _, _, _, rfl, hbody.parse_write, asksFor_scenarioBody _ _, hgives, hreported, expected, _,
    htold⟩

/-- Some number does not have too many digits, while its double has. -/
theorem exists_not_isWritable_add :
    ∃ n : Nat, 0 < n ∧ Text.isWritable n = true ∧ ¬Text.isWritable (n + n : Nat) = true := by
  obtain ⟨limit, hlimit⟩ : ∃ limit, limit = Nat.pow 10 Text.digitLimit := ⟨_, rfl⟩
  have htwo : 2 ≤ limit := by
    rw [hlimit]
    decide +kernel
  refine ⟨limit - 1, by omega, ?_, ?_⟩
  · rw [Text.isWritable, Int.natAbs_natCast, ← hlimit, decide_eq_true_eq]
    omega
  · rw [Text.isWritable, Int.natAbs_natCast, ← hlimit, decide_eq_true_eq]
    omega

/-- The decision of the service on a question need not be reported by the overlap scenario. -/
theorem overlap_not_reported : ¬∀ found params d earlier w, found.isWritable = true →
    AsksFor (dataOf found) .overlap params → Scenario.GivesOverlap params d earlier w →
    (answerBody (.ok found) runTest).json.field "ambiguous" =
      .ok (.bool (d.isAmbiguous w [earlier])) := by
  intro hall
  obtain ⟨n, hpos, hn, hsum⟩ := exists_not_isWritable_add
  let d : Detector := ⟨n, Int.natCast_pos.2 hpos⟩
  let w : Window := ⟨0, n, Int.natCast_nonneg n⟩
  have hzero : Text.isWritable 0 = true := by decide +kernel
  have hw : w.isWritable = true := (Bool.and_eq_true _ _).mpr ⟨hzero, hn⟩
  have hbody := (@restored_overlapNumbers d w w hn hw hw).isWritable
  have hasks := asksFor_scenarioBody .overlap (numberParams (overlapNumbers d w w))
  have hgives := givesOverlap_overlapNumbers d w w
  have hfield := hall _ _ _ _ _ hbody hasks hgives
  have hreported := overlapReported_runScenario hgives (hasks.isWritable_params hbody)
  have hrun : answerBody (.ok (scenarioBody .overlap (numberParams (overlapNumbers d w w))))
      runTest = unexplained := hasks.runTest_eq.trans (hreported.oversize fun h => hsum h.1)
  rw [hrun] at hfield
  cases hfield

end Service
end ExpiryAudit
