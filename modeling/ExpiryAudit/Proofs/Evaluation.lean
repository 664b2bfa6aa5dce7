import ExpiryAudit.Auditor
import ExpiryAudit.Proofs.Act

/-!
# Evaluations

What an evaluation that returns has done: one attempt that is judged as it is, or two
with a reset between them. The processing of an event is the list of the evaluations
of its rules.
-/
namespace ExpiryAudit

variable {σ : Type}

namespace Rule

/-- The five parts of a cycle, with the worlds between them. -/
theorem run_observe_ok {r : Rule} {env : Environment σ} {h : Handle} {p : Payload} {w w' : σ}
    {o : Observation} (ho : (r.observe env h p).run w = (.ok o, w')) :
    ∃ w₁ w₂ w₃ w₄, env.now.run w = (.ok o.before, w₁) ∧
      (r.read env.host h).run w₁ = (.ok o.valueBefore, w₂) ∧
      (r.apply env.host h p).run w₂ = (.ok (), w₃) ∧
      (r.read env.host h).run w₃ = (.ok o.valueAfter, w₄) ∧
      env.now.run w₄ = (.ok o.after, w') ∧ o.payload = p := by
  obtain ⟨before, w₁, hbefore, ho⟩ := Act.run_bind_eq_ok ho
  obtain ⟨valueBefore, w₂, hread, ho⟩ := Act.run_bind_eq_ok ho
  obtain ⟨⟨⟩, w₃, happly, ho⟩ := Act.run_bind_eq_ok ho
  obtain ⟨valueAfter, w₄, hread', ho⟩ := Act.run_bind_eq_ok ho
  obtain ⟨after, w₅, hafter, ho⟩ := Act.run_bind_eq_ok ho
  obtain ⟨rfl, rfl⟩ := Act.run_pure_eq_ok ho
  exact ⟨w₁, w₂, w₃, w₄, hbefore, hread, happly, hread', hafter, rfl⟩

/-! What the acts of host and clock keep is kept by a cycle. -/

section Keeps

variable {I : σ → Prop} {r : Rule} {env : Environment σ} {h : Handle} {p : Payload}

theorem read_keeps (hread : Act.Keeps I (env.host.read h)) : Act.Keeps I (r.read env.host h) :=
  Act.Keeps.bind hread fun _ _ _ _ _ => Act.Keeps.lift _

theorem apply_keeps (hread : Act.Keeps I (env.host.read h))
    (hwrite : ∀ c, Act.Keeps I (env.host.write h c)) : Act.Keeps I (r.apply env.host h p) := by
  unfold apply
  cases r.kind with
  | value => exact Act.Keeps.bind (Act.Keeps.lift _) fun _ _ _ _ _ => hwrite _
  | list => exact Act.Keeps.bind (Act.Keeps.lift _) fun _ _ _ _ _ => hwrite _
  | map => exact Act.Keeps.bind (Act.Keeps.lift _) fun _ _ _ _ _ => hwrite _
  | reducing =>
    refine Act.Keeps.bind (Act.Keeps.lift _) fun _ _ _ _ _ => ?_
    refine Act.Keeps.bind hread fun _ _ _ _ _ => ?_
    exact Act.Keeps.bind (Act.Keeps.lift _) fun _ _ _ _ _ => hwrite _

theorem observe_keeps (hnow : Act.Keeps I env.now) (hread : Act.Keeps I (env.host.read h))
    (happly : Act.Keeps I (r.apply env.host h p)) : Act.Keeps I (r.observe env h p) := by
  refine Act.Keeps.bind hnow fun _ _ _ _ _ => ?_
  refine Act.Keeps.bind (read_keeps hread) fun _ _ _ _ _ => ?_
  refine Act.Keeps.bind happly fun _ _ _ _ _ => ?_
  refine Act.Keeps.bind (read_keeps hread) fun _ _ _ _ _ => ?_
  exact Act.Keeps.bind hnow fun _ _ _ _ _ => Act.Keeps.pure _

end Keeps

end Rule

namespace Observation

theorem update_eq_ok {o : Observation} {u : Update} (h : o.update = .ok u) :
    u.payload = o.payload ∧ u.window.before = o.before ∧ u.window.after = o.after := by
  unfold update at h
  cases hw : Window.make o.before o.after with
  | error e => rw [hw] at h; cases h
  | ok w =>
    rw [hw] at h
    cases h
    exact ⟨rfl, Window.make_eq_ok_iff.1 hw⟩

end Observation

namespace Session

/-- One more update is counted. -/
structure Counted (s t : Session σ) (clash : Bool) (length : Nat) : Prop where
  updates : t.statistics.updates = s.statistics.updates + 1
  clashes : t.statistics.clashes = s.statistics.clashes + clash.toNat
  historyLength : t.statistics.historyLength = s.statistics.historyLength + length

theorem run_report_ok {entry : LogEntry} {s t : Session σ}
    (h : (report entry).run s = (.ok (), t)) : ∃ log, t = { s with log := log } := by
  obtain ⟨log, -, ht⟩ := Act.run_within_eq_ok h
  exact ⟨log, ht⟩

theorem run_reportAny_ok {entry : Option LogEntry} {s t : Session σ}
    (h : (reportAny entry).run s = (.ok (), t)) : ∃ log, t = { s with log := log } := by
  cases entry with
  | none =>
    obtain ⟨-, rfl⟩ := Act.run_pure_eq_ok h
    exact ⟨s.log, rfl⟩
  | some entry => exact run_report_ok h

theorem run_inWorld_ok {α : Type} {a : Act σ α} {x : α} {s t : Session σ}
    (h : (inWorld a).run s = (.ok x, t)) :
    ∃ w, a.run s.world = (.ok x, w) ∧ t = { s with world := w } := Act.run_within_eq_ok h

theorem run_flush_ok {s t : Statistics} {summary : Option Summary}
    (h : Statistics.flush.run s = (.ok summary, t)) :
    t.updates = s.updates ∧ t.clashes = s.clashes ∧ t.historyLength = s.historyLength := by
  simp only [Act.run, Statistics.flush] at h
  split at h
  · obtain ⟨-, rfl⟩ := Prod.mk.inj h
    exact ⟨rfl, rfl, rfl⟩
  · obtain ⟨-, rfl⟩ := Prod.mk.inj h
    exact ⟨rfl, rfl, rfl⟩

/-- Counting leaves everything else but the log as it is. -/
theorem run_count_ok {clash : Bool} {length : Nat} {s t : Session σ}
    (h : (count clash length).run s = (.ok (), t)) :
    s.Counted t clash length ∧ t.world = s.world ∧ t.history = s.history ∧
      t.events = s.events ∧ t.failures = s.failures := by
  obtain ⟨⟨⟩, s₁, hmodify, h⟩ := Act.run_bind_eq_ok h
  obtain ⟨summary, s₂, hwithin, h⟩ := Act.run_bind_eq_ok h
  rw [Act.run_modify] at hmodify
  obtain ⟨-, rfl⟩ := Prod.mk.inj hmodify
  obtain ⟨statistics, hflush, rfl⟩ := Act.run_within_eq_ok hwithin
  obtain ⟨log, rfl⟩ := run_reportAny_ok h
  obtain ⟨hupdates, hclashes, hlength⟩ := run_flush_ok hflush
  refine ⟨⟨hupdates, ?_, hlength⟩, rfl, rfl, rfl, rfl⟩
  cases clash <;> exact hclashes

end Session

namespace Auditor

/-- One attempt to apply a payload, with the update that was observed. -/
structure Attempt (a : Auditor σ) (r : Rule) (key : Text) (p : Payload) (w w' : σ)
    (o : Observation) (u : Update) : Prop where
  observed : (r.observe a.environment (r.handle key) p).run w = (.ok o, w')
  update : o.update = .ok u

/-- How an evaluation returns. -/
inductive Evaluates (a : Auditor σ) (r : Rule) (key : Text) (p : Payload) (s : Session σ) :
    Verification → Session σ → Prop
  /-- The first attempt is unambiguous and is judged against the history. -/
  | clean {w₀ : σ} {o : Observation} {u : Update} {t : Session σ}
      (acquired : (a.environment.host.acquire (r.handle key)).run s.world = (.ok (), w₀))
      (attempt : a.Attempt r key p w₀ t.world o u)
      (unambiguous :
        a.detector.isAmbiguous u.window (windows (s.history.load ⟨key, r.id⟩)) = false)
      (history : t.history = s.history.append ⟨key, r.id⟩ u)
      (counted : s.Counted t false (s.history.load ⟨key, r.id⟩).length) :
      Evaluates a r key p s ⟨key, r, s.history.load ⟨key, r.id⟩, o⟩ t
  /-- The first attempt is ambiguous. Host and history are cleared, and the second
  attempt is judged against no history. -/
  | retried {w₀ w₁ w₂ : σ} {o₁ o₂ : Observation} {u₁ u₂ : Update} {t : Session σ}
      (acquired : (a.environment.host.acquire (r.handle key)).run s.world = (.ok (), w₀))
      (first : a.Attempt r key p w₀ w₁ o₁ u₁)
      (ambiguous :
        a.detector.isAmbiguous u₁.window (windows (s.history.load ⟨key, r.id⟩)) = true)
      (cleared : (a.environment.host.clear (r.handle key)).run w₁ = (.ok (), w₂))
      (second : a.Attempt r key p w₂ t.world o₂ u₂)
      (history : t.history = (s.history.clear ⟨key, r.id⟩).append ⟨key, r.id⟩ u₂)
      (counted : s.Counted t true 0) :
      Evaluates a r key p s ⟨key, r, [], o₂⟩ t

theorem run_retry_ok {a : Auditor σ} {r : Rule} {key : Text} {p : Payload} {s t : Session σ}
    {o : Observation} (h : (a.retry r key p).run s = (.ok o, t)) :
    ∃ w₁ w₂ log, (a.environment.host.clear (r.handle key)).run s.world = (.ok (), w₁) ∧
      (r.observe a.environment (r.handle key) p).run w₁ = (.ok o, w₂) ∧
      t = { s with world := w₂, history := s.history.clear ⟨key, r.id⟩, log := log } := by
  obtain ⟨⟨⟩, s₁, hcleared, h⟩ := Act.run_bind_eq_ok h
  obtain ⟨⟨⟩, s₂, hforgotten, h⟩ := Act.run_bind_eq_ok h
  obtain ⟨o', s₃, hobserved, h⟩ := Act.run_bind_eq_ok h
  obtain ⟨⟨⟩, s₄, hreported, h⟩ := Act.run_bind_eq_ok h
  obtain ⟨rfl, rfl⟩ := Act.run_pure_eq_ok h
  obtain ⟨w₁, hclear, rfl⟩ := Session.run_inWorld_ok hcleared
  obtain ⟨-, rfl⟩ := Prod.mk.inj hforgotten
  obtain ⟨w₂, hobserve, rfl⟩ := Session.run_inWorld_ok hobserved
  obtain ⟨log, rfl⟩ := Session.run_report_ok hreported
  exact ⟨w₁, w₂, log, hclear, hobserve, rfl⟩

/-- The end of an evaluation: the update is counted and recorded. -/
def record (r : Rule) (key : Text) (clash : Bool) (previous : List Update) (o : Observation) :
    Act (Session σ) Verification := do
  Session.count clash previous.length
  let u ← Act.lift o.update
  Session.appendHistory ⟨key, r.id⟩ u
  return ⟨key, r, previous, o⟩

theorem run_record_ok {r : Rule} {key : Text} {clash : Bool} {previous : List Update}
    {o : Observation} {s t : Session σ} {v : Verification}
    (h : (record r key clash previous o).run s = (.ok v, t)) :
    v = ⟨key, r, previous, o⟩ ∧ ∃ u, o.update = .ok u ∧ t.world = s.world ∧
      t.history = s.history.append ⟨key, r.id⟩ u ∧ s.Counted t clash previous.length := by
  obtain ⟨⟨⟩, s₁, hcount, h⟩ := Act.run_bind_eq_ok h
  obtain ⟨u, s₂, hlifted, h⟩ := Act.run_bind_eq_ok h
  obtain ⟨⟨⟩, s₃, happended, h⟩ := Act.run_bind_eq_ok h
  obtain ⟨rfl, rfl⟩ := Act.run_pure_eq_ok h
  obtain ⟨hcounted, hworld, hhistory, -, -⟩ := Session.run_count_ok hcount
  obtain ⟨hupdate, rfl⟩ := Act.run_lift_eq_ok hlifted
  obtain ⟨-, rfl⟩ := Prod.mk.inj happended
  refine ⟨rfl, u, hupdate, hworld, congrArg (·.append ⟨key, r.id⟩ u) hhistory, ?_⟩
  exact ⟨hcounted.updates, hcounted.clashes, hcounted.historyLength⟩

/-- An evaluation that returns went one of the two ways. -/
theorem evaluates_of_run {a : Auditor σ} {r : Rule} {key : Text} {p : Payload}
    {s t : Session σ} {v : Verification} (h : (a.evaluate r key p).run s = (.ok v, t)) :
    a.Evaluates r key p s v t := by
  obtain ⟨⟨⟩, s₁, hacquired, h⟩ := Act.run_bind_eq_ok h
  obtain ⟨previous, s₂, hloaded, h⟩ := Act.run_bind_eq_ok h
  obtain ⟨first, s₃, hobserved, h⟩ := Act.run_bind_eq_ok h
  obtain ⟨u₁, s₄, hlifted, h⟩ := Act.run_bind_eq_ok h
  obtain ⟨⟨⟩, s₅, hreported, h⟩ := Act.run_bind_eq_ok h
  obtain ⟨w₀, hacquire, rfl⟩ := Session.run_inWorld_ok hacquired
  obtain ⟨hprevious, rfl⟩ := Prod.mk.inj hloaded
  cases hprevious
  obtain ⟨w₁, hobserve, rfl⟩ := Session.run_inWorld_ok hobserved
  obtain ⟨hattempt, rfl⟩ := Act.run_lift_eq_ok hlifted
  obtain ⟨log, rfl⟩ := Session.run_reportAny_ok hreported
  dsimp only at h
  split at h
  · next hambiguous =>
    obtain ⟨second, s₆, hretried, h⟩ := Act.run_bind_eq_ok h
    obtain ⟨judged, s₇, hjudged, h⟩ := Act.run_bind_eq_ok h
    obtain ⟨rfl, rfl⟩ := Act.run_pure_eq_ok hjudged
    obtain ⟨w₂, w₃, log', hclear, hobserve', rfl⟩ := run_retry_ok hretried
    obtain ⟨rfl, u₂, hupdate, hworld, hhistory, hcounted⟩ := run_record_ok h
    rw [hambiguous] at hcounted
    refine .retried hacquire ⟨hobserve, hattempt⟩ hambiguous hclear ⟨?_, hupdate⟩ hhistory
      ⟨hcounted.updates, hcounted.clashes, hcounted.historyLength⟩
    exact hworld ▸ hobserve'
  · next hunambiguous =>
    have hclean := Bool.eq_false_iff.2 hunambiguous
    obtain ⟨judged, s₆, hjudged, h⟩ := Act.run_bind_eq_ok h
    obtain ⟨rfl, rfl⟩ := Act.run_pure_eq_ok hjudged
    obtain ⟨rfl, u, hupdate, hworld, hhistory, hcounted⟩ := run_record_ok h
    cases hattempt.symm.trans hupdate
    rw [hclean] at hcounted
    refine .clean hacquire ⟨?_, hattempt⟩ hclean hhistory
      ⟨hcounted.updates, hcounted.clashes, hcounted.historyLength⟩
    exact hworld ▸ hobserve

theorem Evaluates.counted {a : Auditor σ} {r : Rule} {key : Text} {p : Payload} {s t : Session σ}
    {v : Verification} (h : a.Evaluates r key p s v t) :
    ∃ clash, s.Counted t clash v.previous.length := by
  cases h with
  | clean _ _ _ _ counted => exact ⟨false, counted⟩
  | retried _ _ _ _ _ _ counted => exact ⟨true, counted⟩

/-- A verification that holds leaves no trace; one that fails leaves its line. -/
theorem run_judge_ok {v : Verification} {s t : Session σ} {line : Option String}
    (h : (judge v).run s = (.ok line, t)) :
    (v.holds = .ok true ∧ line = none ∨
      v.holds = .ok false ∧ ∃ text, v.line = .ok text ∧ line = some text) ∧
      t.world = s.world ∧ t.history = s.history := by
  obtain ⟨holds, s₁, hlifted, h⟩ := Act.run_bind_eq_ok h
  obtain ⟨hholds, rfl⟩ := Act.run_lift_eq_ok hlifted
  cases holds with
  | true =>
    obtain ⟨rfl, rfl⟩ := Act.run_pure_eq_ok h
    exact ⟨.inl ⟨hholds, rfl⟩, rfl, rfl⟩
  | false =>
    obtain ⟨⟨⟩, s₂, hcounted, h⟩ := Act.run_bind_eq_ok h
    obtain ⟨⟨⟩, s₃, hreported, h⟩ := Act.run_bind_eq_ok h
    obtain ⟨text, s₄, hwritten, h⟩ := Act.run_bind_eq_ok h
    obtain ⟨rfl, rfl⟩ := Act.run_pure_eq_ok h
    obtain ⟨-, rfl⟩ := Prod.mk.inj hcounted
    obtain ⟨log, rfl⟩ := Session.run_report_ok hreported
    obtain ⟨hline, rfl⟩ := Act.run_lift_eq_ok hwritten
    exact ⟨.inr ⟨hholds, text, hline, rfl⟩, rfl, rfl⟩

end Auditor

/-! ## The evaluations of an event -/

/-- The part of one rule in the processing of an event. -/
structure Evaluation (σ : Type) where
  rule : Rule
  key : Text
  payload : Payload
  /-- The session that the evaluation starts from. -/
  start : Session σ
  verification : Verification
  /-- The session in which the verification is judged. -/
  middle : Session σ
  /-- The diagnostic line, if the verification fails. -/
  line : Option String
  finish : Session σ

namespace Evaluation

/-- The first attempt was ambiguous, so that the evaluation counts as a clash. -/
def wasReset (x : Evaluation σ) : Prop :=
  x.start.statistics.clashes < x.middle.statistics.clashes

instance (x : Evaluation σ) : Decidable x.wasReset :=
  inferInstanceAs (Decidable (x.start.statistics.clashes < x.middle.statistics.clashes))

/-- The evaluation is what an auditor does. -/
structure Of (a : Auditor σ) (x : Evaluation σ) : Prop where
  evaluated :
    (a.evaluate x.rule x.key x.payload).run x.start = (.ok x.verification, x.middle)
  judged : (Auditor.judge x.verification).run x.middle = (.ok x.line, x.finish)

namespace Of

variable {a : Auditor σ} {x : Evaluation σ}

theorem evaluates (h : x.Of a) :
    a.Evaluates x.rule x.key x.payload x.start x.verification x.middle :=
  Auditor.evaluates_of_run h.evaluated

theorem finish_world (h : x.Of a) : x.finish.world = x.middle.world :=
  (Auditor.run_judge_ok h.judged).2.1

theorem finish_history (h : x.Of a) : x.finish.history = x.middle.history :=
  (Auditor.run_judge_ok h.judged).2.2

/-- There is no line exactly if the verification holds. -/
theorem line_eq_none_iff (h : x.Of a) : x.line = none ↔ x.verification.holds = .ok true := by
  obtain ⟨hholds, hline⟩ | ⟨hfails, text, -, hline⟩ := (Auditor.run_judge_ok h.judged).1
  · simp [hholds, hline]
  · simp [hfails, hline]

/-- There is a line exactly if the verification fails. -/
theorem isSome_line_iff (h : x.Of a) :
    x.line.isSome ↔ x.verification.holds = .ok false := by
  obtain ⟨hholds, hline⟩ | ⟨hfails, text, -, hline⟩ := (Auditor.run_judge_ok h.judged).1
  · simp [hholds, hline]
  · simp [hfails, hline]

end Of
end Evaluation

namespace Auditor

/-- The evaluations for some rules, up to the first one that does not return. -/
def evaluationsOf (a : Auditor σ) (key : Text) :
    List (Rule × Json) → Session σ → List (Evaluation σ)
  | [], _ => []
  | (r, raw) :: rest, s =>
    match (a.evaluate r key (.raw raw)).run s with
    | (.error _, _) => []
    | (.ok v, t) =>
      match (judge v).run t with
      | (.error _, _) => []
      | (.ok line, u) => ⟨r, key, .raw raw, s, v, t, line, u⟩ :: evaluationsOf a key rest u

/-- The evaluations of an event. An event that is refused has none. -/
def evaluations (a : Auditor σ) (e : Event) (s : Session σ) : List (Evaluation σ) :=
  match a.prepare e with
  | .ok raws => a.evaluationsOf e.key (a.rules.zip raws) { s with events := s.events + 1 }
  | .error _ => []

end Auditor
end ExpiryAudit
