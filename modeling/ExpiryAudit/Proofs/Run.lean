import ExpiryAudit.Proofs.Evaluation
import ExpiryAudit.Proofs.Expectation

/-!
# Runs

Sessions that a run comes to, and what holds in all of them. An event that is
processed is processed rule by rule, so a run keeps what every evaluation keeps.
-/
namespace ExpiryAudit

variable {σ : Type}

namespace Log

/-- An event that ends with the fault has ended because of what is reported about it: a strict
log has refused a record, or a summary has no average. -/
def stops (l : Log) : Fault → Bool
  | .unwritable => l.isStrict
  | .quotientOverflow => true
  | _ => false

end Log

namespace Auditor

/-- Rules of an auditor with the same name are the same rule. -/
theorem eq_of_id_eq {a : Auditor σ} {r r' : Rule} (hr : r ∈ a.rules) (hr' : r' ∈ a.rules)
    (h : r.id = r'.id) : r = r' := List.inj_on_of_nodup_map a.nodup hr hr' h

/-- Every rule takes the payload that an event has for it. -/
theorem accepts_of_prepare {a : Auditor σ} {e : Event} {raws : List Json}
    (h : a.prepare e = .ok raws) :
    raws.length = a.rules.length ∧
      ∀ pair ∈ a.rules.zip raws, pair.1.kind.Accepts (.raw pair.2) := by
  have hall := mapM_eq_ok_iff.1 h
  refine ⟨hall.length_eq.symm, fun pair hpair => ?_⟩
  have hone := List.forall₂_zip hall hpair
  obtain ⟨raw, -, hone⟩ := eq_ok_of_bind_eq_ok hone
  obtain ⟨⟨⟩, hvalid, hone⟩ := eq_ok_of_bind_eq_ok hone
  cases hone
  exact hvalid

/-- The payloads of an accepted event are those of all rules, each of which has one. -/
theorem pairs_of_prepare {a : Auditor σ} {e : Event} {raws : List Json}
    (h : a.prepare e = .ok raws) :
    (a.rules.zip raws).map (·.1) = a.rules ∧ ((a.rules.zip raws).map (·.1.id)).Nodup ∧
      (a.rules.zip raws).length = a.rules.length := by
  have hlength := (accepts_of_prepare h).1
  have hfst : (a.rules.zip raws).map (·.1) = a.rules :=
    List.map_fst_zip (Nat.le_of_eq hlength.symm)
  have hnodup := a.nodup
  rw [← hfst, List.map_map] at hnodup
  exact ⟨hfst, hnodup, by rw [List.length_zip, hlength, Nat.min_self]⟩

/-! ## From evaluations to events -/

section Evaluations

variable {a : Auditor σ} {key : Text}

/-- A property that every evaluation keeps holds before every one of them. -/
theorem of_mem_evaluationsOf {P : σ → History → Prop} {pairs : List (Rule × Json)}
    (hP : ∀ x : Evaluation σ, x.Of a → x.key = key →
      (∃ raw, x.payload = .raw raw ∧ (x.rule, raw) ∈ pairs) →
      P x.start.world x.start.history → P x.finish.world x.finish.history)
    {s : Session σ} (hs : P s.world s.history) {x : Evaluation σ}
    (hx : x ∈ a.evaluationsOf key pairs s) :
    x.Of a ∧ x.key = key ∧ (∃ raw, x.payload = .raw raw ∧ (x.rule, raw) ∈ pairs) ∧
      P x.start.world x.start.history := by
  induction pairs generalizing s with
  | nil => cases hx
  | cons pair rest ih =>
    obtain ⟨r, raw⟩ := pair
    unfold evaluationsOf at hx
    split at hx
    · cases hx
    · next v t hevaluated =>
      split at hx
      · cases hx
      · next line u hjudged =>
        have hfirst : Evaluation.Of a ⟨r, key, .raw raw, s, v, t, line, u⟩ :=
          ⟨hevaluated, hjudged⟩
        have hpair : ∃ raw', Payload.raw raw = .raw raw' ∧ (r, raw') ∈ (r, raw) :: rest :=
          ⟨raw, rfl, List.mem_cons_self⟩
        rcases List.mem_cons.1 hx with rfl | hx
        · exact ⟨hfirst, rfl, hpair, hs⟩
        · have hu : P u.world u.history := hP _ hfirst rfl hpair hs
          obtain ⟨hof, hkey, ⟨raw', hraw, hmem⟩, hstart⟩ := ih
            (fun x hof hkey ⟨raw', hraw, hmem⟩ =>
              hP x hof hkey ⟨raw', hraw, List.mem_cons_of_mem _ hmem⟩) hu hx
          exact ⟨hof, hkey, ⟨raw', hraw, List.mem_cons_of_mem _ hmem⟩, hstart⟩

/-- The lines of rules are those of their evaluations, and a property that every
evaluation keeps is kept. -/
theorem run_judgeAll_ok {P : σ → History → Prop} {pairs : List (Rule × Json)}
    (hP : ∀ x : Evaluation σ, x.Of a → x.key = key →
      (∃ raw, x.payload = .raw raw ∧ (x.rule, raw) ∈ pairs) →
      P x.start.world x.start.history → P x.finish.world x.finish.history)
    {s t : Session σ} {lines : List String}
    (h : (a.judgeAll key pairs).run s = (.ok lines, t)) (hs : P s.world s.history) :
    lines = (a.evaluationsOf key pairs s).filterMap (·.line) ∧
      (a.evaluationsOf key pairs s).map (·.rule) = pairs.map (·.1) ∧ P t.world t.history := by
  induction pairs generalizing s lines with
  | nil =>
    obtain ⟨rfl, rfl⟩ := Act.run_pure_eq_ok h
    exact ⟨rfl, rfl, hs⟩
  | cons pair rest ih =>
    obtain ⟨r, raw⟩ := pair
    obtain ⟨v, s₁, hevaluated, h⟩ := Act.run_bind_eq_ok h
    obtain ⟨line, s₂, hjudged, h⟩ := Act.run_bind_eq_ok h
    obtain ⟨others, s₃, hrest, h⟩ := Act.run_bind_eq_ok h
    obtain ⟨rfl, rfl⟩ := Act.run_pure_eq_ok h
    have hfirst : Evaluation.Of a ⟨r, key, .raw raw, s, v, s₁, line, s₂⟩ :=
      ⟨hevaluated, hjudged⟩
    have hs₂ : P s₂.world s₂.history :=
      hP _ hfirst rfl ⟨raw, rfl, List.mem_cons_self⟩ hs
    obtain ⟨rfl, hrules, ht⟩ := ih
      (fun x hof hkey ⟨raw', hraw, hmem⟩ =>
        hP x hof hkey ⟨raw', hraw, List.mem_cons_of_mem _ hmem⟩) hrest hs₂
    have hunfold : a.evaluationsOf key ((r, raw) :: rest) s =
        ⟨r, key, .raw raw, s, v, s₁, line, s₂⟩ :: a.evaluationsOf key rest s₂ := by
      simp only [evaluationsOf, hevaluated, hjudged]
    refine ⟨?_, ?_, ht⟩
    · rw [hunfold]
      cases line <;> rfl
    · rw [hunfold, List.map_cons, List.map_cons, hrules]

end Evaluations

/-- An evaluation keeps a property of world and history, whatever payload it has
that its rule takes. -/
def KeptByEvaluations (a : Auditor σ) (P : σ → History → Prop) : Prop :=
  ∀ x : Evaluation σ, x.Of a → x.rule ∈ a.rules → x.rule.kind.Accepts x.payload →
    P x.start.world x.start.history → P x.finish.world x.finish.history

/-- What is known of every evaluation of an event. -/
theorem of_mem_evaluations {a : Auditor σ} {P : σ → History → Prop} (hP : a.KeptByEvaluations P)
    {s : Session σ} (hs : P s.world s.history) {e : Event} {x : Evaluation σ}
    (hx : x ∈ a.evaluations e s) :
    x.Of a ∧ x.key = e.key ∧ x.rule ∈ a.rules ∧ x.rule.kind.Accepts x.payload ∧
      P x.start.world x.start.history := by
  unfold evaluations at hx
  split at hx
  · next raws hraws =>
    obtain ⟨-, haccepts⟩ := accepts_of_prepare hraws
    obtain ⟨hof, hkey, ⟨raw, hraw, hmem⟩, hstart⟩ := of_mem_evaluationsOf
      (P := P) (s := { s with events := s.events + 1 }) (fun x hof hkey ⟨raw, hraw, hmem⟩ =>
        hP x hof (List.of_mem_zip hmem).1 (hraw ▸ haccepts _ hmem)) hs hx
    exact ⟨hof, hkey, (List.of_mem_zip hmem).1, hraw ▸ haccepts _ hmem, hstart⟩
  · cases hx

/-- An event that is processed gives the lines of its evaluations, one for every
rule, and keeps what evaluations keep. -/
theorem run_process_ok {a : Auditor σ} {P : σ → History → Prop} (hP : a.KeptByEvaluations P)
    {e : Event} {s t : Session σ} {lines : List String}
    (h : (a.process e).run s = (.ok lines, t)) (hs : P s.world s.history) :
    lines = (a.evaluations e s).filterMap (·.line) ∧
      (a.evaluations e s).map (·.rule) = a.rules ∧ P t.world t.history := by
  obtain ⟨raws, s₁, hprepared, h⟩ := Act.run_bind_eq_ok h
  obtain ⟨number, s₂, hcounted, h⟩ := Act.run_bind_eq_ok h
  obtain ⟨found, s₃, hjudged, h⟩ := Act.run_bind_eq_ok h
  obtain ⟨⟨⟩, s₄, hreported, h⟩ := Act.run_bind_eq_ok h
  obtain ⟨rfl, rfl⟩ := Act.run_pure_eq_ok h
  obtain ⟨hraws, rfl⟩ := Act.run_lift_eq_ok hprepared
  obtain ⟨-, rfl⟩ := Prod.mk.inj hcounted
  obtain ⟨log, rfl⟩ := Session.run_report_ok hreported
  obtain ⟨-, haccepts⟩ := accepts_of_prepare hraws
  obtain ⟨hlines, hrules, ht⟩ := run_judgeAll_ok (P := P)
    (fun x hof hkey ⟨raw, hraw, hmem⟩ =>
      hP x hof (List.of_mem_zip hmem).1 (hraw ▸ haccepts _ hmem)) hjudged hs
  have hevaluations : a.evaluations e s =
      a.evaluationsOf e.key (a.rules.zip raws) { s with events := s.events + 1 } := by
    simp only [evaluations, hraws]
  rw [hevaluations]
  exact ⟨hlines, hrules.trans (pairs_of_prepare hraws).1, ht⟩

/-! ## Runs of events -/

/-- The sessions that a run comes to when all events are processed to their end. -/
inductive Completes (a : Auditor σ) (s₀ : Session σ) : Session σ → Prop
  | start : Completes a s₀ s₀
  | process {s t : Session σ} {e : Event} {lines : List String} :
      Completes a s₀ s → (a.process e).run s = (.ok lines, t) → Completes a s₀ t

/-- A run keeps what evaluations keep. -/
theorem Completes.kept {a : Auditor σ} {P : σ → History → Prop} (hP : a.KeptByEvaluations P)
    {s₀ s : Session σ} (h : a.Completes s₀ s) (h₀ : P s₀.world s₀.history) :
    P s.world s.history := by
  induction h with
  | start => exact h₀
  | process _ hprocess ih => exact (run_process_ok hP hprocess ih).2.2

/-- The sessions that a run comes to, whatever comes of its events. In between the
world moves on its own. -/
inductive Reachable (a : Auditor σ) (moves : σ → σ → Prop) (s₀ : Session σ) : Session σ → Prop
  | start : Reachable a moves s₀ s₀
  | process {s : Session σ} (e : Event) :
      Reachable a moves s₀ s → Reachable a moves s₀ ((a.process e).run s).2
  | move {s : Session σ} {w : σ} :
      Reachable a moves s₀ s → moves s.world w → Reachable a moves s₀ { s with world := w }

/-- The sessions that a run comes to, whatever comes of its events, as long as none of them ends
because of what is reported about it. -/
inductive Unbroken (a : Auditor σ) (s₀ : Session σ) : Session σ → Prop
  | start : Unbroken a s₀ s₀
  | process {s t : Session σ} {e : Event} {result : Except Fault (List String)} :
      Unbroken a s₀ s → (a.process e).run s = (result, t) →
      (∀ f, result = .error f → s.log.stops f = false) → Unbroken a s₀ t

/-- Sessions that an unbroken run comes to are among those that any run comes to. -/
theorem Unbroken.reachable {a : Auditor σ} {moves : σ → σ → Prop} {s₀ s : Session σ}
    (h : a.Unbroken s₀ s) : a.Reachable moves s₀ s := by
  induction h with
  | start => exact .start
  | @process s t e result _ hprocess _ ih =>
    have hnext := ih.process e
    rwa [hprocess] at hnext

end Auditor

/-! ## What a run keeps, whatever comes of it -/

/-- What of a session is neither the log nor a count of events. -/
def Session.core (s : Session σ) : σ × History × Statistics := (s.world, s.history, s.statistics)

/-- A property of sessions that depends neither on the records of the log nor on the counts
of events and failures. -/
structure Session.Lasting (P : Session σ → Prop) : Prop where
  report : ∀ entry, Act.Keeps P (Session.report entry)
  events : ∀ s n, P s → P { s with events := n }
  failures : ∀ s n, P s → P { s with failures := n }

theorem Session.lasting_core (Q : σ × History × Statistics → Prop) :
    Session.Lasting fun s => Q s.core where
  report := fun _ => Act.Keeps.within fun _ _ hs => hs
  events := fun _ _ hs => hs
  failures := fun _ _ hs => hs

theorem Log.run_add_isStrict (e : LogEntry) (l : Log) :
    ((add e).run l).2.isStrict = l.isStrict := by
  simp only [add, Act.run]
  split
  · rfl
  · split <;> rfl

theorem Session.lasting_isStrict (strict : Bool) :
    Session.Lasting fun s : Session σ => s.log.isStrict = strict where
  report := fun entry s hs => (Log.run_add_isStrict entry s.log).trans hs
  events := fun _ _ hs => hs
  failures := fun _ _ hs => hs

namespace Auditor

section Lasting

variable {a : Auditor σ} {P : Session σ → Prop} (hP : Session.Lasting P)

include hP

theorem judge_keeps (v : Verification) : Act.Keeps P (Auditor.judge v) := by
  refine Act.Keeps.bind (Act.Keeps.lift _) fun _ holds _ _ _ => ?_
  cases holds with
  | true => exact Act.Keeps.pure _
  | false =>
    refine Act.Keeps.bind (Act.Keeps.modify fun s hs => hP.failures s _ hs) fun _ _ _ _ _ => ?_
    refine Act.Keeps.bind (hP.report _) fun _ _ _ _ _ => ?_
    exact Act.Keeps.bind (Act.Keeps.lift _) fun _ _ _ _ _ => Act.Keeps.pure _

theorem judgeAll_keeps {key : Text} {pairs : List (Rule × Json)}
    (h : ∀ x ∈ pairs, Act.Keeps P (a.evaluate x.1 key (.raw x.2))) :
    Act.Keeps P (a.judgeAll key pairs) := by
  induction pairs with
  | nil => exact Act.Keeps.pure _
  | cons pair rest ih =>
    obtain ⟨hfirst, hrest⟩ := List.forall_mem_cons.1 h
    refine Act.Keeps.bind hfirst fun _ _ _ _ _ => ?_
    refine Act.Keeps.bind (judge_keeps hP _) fun _ _ _ _ _ => ?_
    exact Act.Keeps.bind (ih hrest) fun _ _ _ _ _ => Act.Keeps.pure _

/-- An event keeps what the evaluations of its rules keep. -/
theorem process_keeps {e : Event} (h : ∀ r ∈ a.rules, ∀ p, r.kind.Accepts p →
    Act.Keeps P (a.evaluate r e.key p)) : Act.Keeps P (a.process e) := by
  refine Act.Keeps.bind (Act.Keeps.lift _) fun _ raws _ hraws _ => ?_
  obtain ⟨-, haccepts⟩ := accepts_of_prepare (Act.run_lift_eq_ok hraws).1
  refine Act.Keeps.bind (fun s hs => hP.events s _ hs) fun _ _ _ _ _ => ?_
  refine Act.Keeps.bind (judgeAll_keeps hP fun x hx =>
    h _ (List.of_mem_zip hx).1 _ (haccepts x hx)) fun _ _ _ _ _ => ?_
  exact Act.Keeps.bind (hP.report _) fun _ _ _ _ _ => Act.Keeps.pure _

end Lasting

section Kept

variable {a : Auditor σ} {Q : σ × History × Statistics → Prop}

/-- A judgement changes neither world nor history nor statistics, whatever comes of it. -/
theorem run_judge_core (v : Verification) (s : Session σ) :
    ((Auditor.judge v).run s).2.core = s.core :=
  judge_keeps (Session.lasting_core fun c => c = s.core) v s rfl

/-- Nothing is touched for an event that is refused. -/
theorem run_process_refused {e : Event} {f : Fault} (hraws : a.prepare e = .error f)
    (s : Session σ) : (a.process e).run s = (.error f, s) :=
  Act.run_bind_error (by rw [hraws, Act.run_lift])

/-- What comes of an accepted event is what comes of its rules, but for the record of it. -/
theorem run_process_accepted {e : Event} {raws : List Json} (hraws : a.prepare e = .ok raws)
    {s t : Session σ} {result : Except Fault (List String)}
    (hjudged : (a.judgeAll e.key (a.rules.zip raws)).run { s with events := s.events + 1 } =
      (result, t)) :
    ∃ log : Log, log.isStrict = t.log.isStrict ∧
      (a.process e).run s = (result, { t with log := log }) := by
  have hlifted : (Act.lift (a.prepare e)).run s = (.ok raws, s) := by rw [hraws, Act.run_lift]
  have hcounted : Session.countEvent.run s =
      (.ok (s.events + 1), { s with events := s.events + 1 }) := rfl
  rw [Auditor.process, Act.run_bind_ok hlifted, Act.run_bind_ok hcounted]
  cases result with
  | error f => exact ⟨t.log, rfl, Act.run_bind_error hjudged⟩
  | ok lines =>
    rw [Act.run_bind_ok hjudged]
    exact ⟨{ t.log with recent := .processed (s.events + 1) e.key lines.length :: t.log.recent },
      rfl, rfl⟩

/-- What an accepted event leaves is what its rules leave, whatever comes of them. -/
theorem run_process_core {e : Event} {raws : List Json} (hraws : a.prepare e = .ok raws)
    (s : Session σ) :
    ((a.process e).run s).2.core = ((a.judgeAll e.key (a.rules.zip raws)).run
      { s with events := s.events + 1 }).2.core := by
  cases hjudged : (a.judgeAll e.key (a.rules.zip raws)).run { s with events := s.events + 1 } with
  | mk result t =>
    obtain ⟨log, -, hrun⟩ := run_process_accepted hraws hjudged
    rw [hrun]
    rfl

/-- An evaluation keeps a property, whatever comes of it and whatever payload it has that
its rule takes. -/
def KeptAnyhow (a : Auditor σ) (Q : σ × History × Statistics → Prop) : Prop :=
  ∀ r ∈ a.rules, ∀ key p, r.kind.Accepts p →
    Act.Keeps (fun s : Session σ => Q s.core) (a.evaluate r key p)

theorem KeptAnyhow.process (h : a.KeptAnyhow Q) (e : Event) :
    Act.Keeps (fun s : Session σ => Q s.core) (a.process e) :=
  process_keeps (Session.lasting_core Q) fun r hr p hp => h r hr e.key p hp

/-- A run keeps what evaluations keep, whatever comes of its events. -/
theorem KeptAnyhow.reachable (h : a.KeptAnyhow Q) {moves : σ → σ → Prop}
    (hmoves : ∀ w w' c, moves w w' → Q (w, c) → Q (w', c)) {s₀ s : Session σ}
    (hs : a.Reachable moves s₀ s) (h₀ : Q s₀.core) : Q s.core := by
  induction hs with
  | start => exact h₀
  | process e _ ih => exact h.process e _ ih
  | move _ hmove ih => exact hmoves _ _ _ hmove ih

end Kept

end Auditor
end ExpiryAudit
