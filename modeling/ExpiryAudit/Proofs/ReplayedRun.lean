import ExpiryAudit.Proofs.Outcome
import ExpiryAudit.Proofs.Replay

/-!
# Runs that follow a replay

A run of one rule over one key, against a host that answers every call, with a clock that
reads the instants of given windows. Whatever the reads show, the windows that the run
records are those of a replay, and so are its counts.
-/
namespace ExpiryAudit

variable {σ : Type}

namespace Environment

/-- A clock that reads instants one after another, of which the host takes none. -/
structure Scripted (env : Environment σ) (remaining : σ → List Int) : Prop where
  now : ∀ w t rest, remaining w = t :: rest →
    ∃ w', env.now.run w = (.ok t, w') ∧ remaining w' = rest
  acquire : ∀ h w, remaining ((env.host.acquire h).run w).2 = remaining w
  read : ∀ h w, remaining ((env.host.read h).run w).2 = remaining w
  write : ∀ h c w, remaining ((env.host.write h c).run w).2 = remaining w
  clear : ∀ h w, remaining ((env.host.clear h).run w).2 = remaining w

end Environment

/-! ## A cycle -/

section Cycle

variable {env : Environment σ} {moves : σ → σ → Prop} {w₀ : σ} {remaining : σ → List Int}

/-- The world of a run, in which some instants are left to be read. -/
def Environment.Left (env : Environment σ) (moves : σ → σ → Prop) (w₀ : σ)
    (remaining : σ → List Int) (instants : List Int) (w : σ) : Prop :=
  env.Comes moves w₀ w ∧ remaining w = instants

variable (hserves : env.Serves moves w₀) (htyped : env.Typed moves w₀)
  (hscripted : env.Scripted remaining)

/-- An act of a host that returns leaves the instants to be read. -/
theorem Environment.returns_left {α : Type} {act : Act σ α} {instants : List Int}
    (hreturns : Act.Returns (env.Comes moves w₀) act fun _ _ => True)
    (hcomes : Act.Keeps (env.Comes moves w₀) act)
    (hrest : ∀ w, remaining (act.run w).2 = remaining w) :
    Act.Returns (env.Left moves w₀ remaining instants) act fun _ w =>
      env.Left moves w₀ remaining instants w := by
  rintro w ⟨hw, hleft⟩
  obtain ⟨x, w', hrun, -⟩ := hreturns w hw
  have hinstants := hrest w
  rw [hrun] at hinstants
  exact ⟨x, w', hrun, hcomes.of_run hrun hw, hinstants.trans hleft⟩

include hscripted in
theorem Environment.Scripted.returns_now (t : Int) (rest : List Int) :
    Act.Returns (env.Left moves w₀ remaining (t :: rest)) env.now fun x w =>
      x = t ∧ env.Left moves w₀ remaining rest w := by
  rintro w ⟨hw, hleft⟩
  obtain ⟨w', hnow, hrest⟩ := hscripted.now w t rest hleft
  exact ⟨t, w', hnow, rfl, Act.Keeps.of_run (fun _ hw => .now hw) hnow hw, hrest⟩

namespace Rule

variable {r : Rule} {key : Text} {p : Payload} {instants : List Int}

include hserves htyped hscripted

theorem returns_read_left :
    Act.Returns (env.Left moves w₀ remaining instants) (r.read env.host (r.handle key)) fun _ w =>
      env.Left moves w₀ remaining instants w := by
  rintro w ⟨hw, hleft⟩
  obtain ⟨x, w', hread, -, hw'⟩ := returns_read hserves htyped.answers w hw
  have hkept : Act.Keeps (fun w => remaining w = instants) (r.read env.host (r.handle key)) :=
    read_keeps fun w hw => (hscripted.read _ w).trans hw
  exact ⟨x, w', hread, hw', hkept.of_run hread hleft⟩

/-- A payload that the rule takes is applied. -/
theorem returns_apply_left (hp : r.kind.Accepts p) :
    Act.Returns (env.Left moves w₀ remaining instants) (r.apply env.host (r.handle key) p)
      fun _ w => env.Left moves w₀ remaining instants w := by
  rintro w ⟨hw, hleft⟩
  obtain ⟨x, w', happly, hw'⟩ := returns_apply hserves htyped.answers hp w hw
  have hkept : Act.Keeps (fun w => remaining w = instants) (r.apply env.host (r.handle key) p) :=
    apply_keeps (fun w hw => (hscripted.read _ w).trans hw)
      fun c w hw => (hscripted.write _ c w).trans hw
  exact ⟨x, w', happly, hw', hkept.of_run happly hleft⟩

/-- A cycle takes the next two instants as its window. -/
theorem returns_observe (key : Text) (hp : r.kind.Accepts p) (before after : Int) (rest : List Int) :
    Act.Returns (env.Left moves w₀ remaining (before :: after :: rest))
      (r.observe env (r.handle key) p) fun o w =>
        o.before = before ∧ o.after = after ∧ o.payload = p ∧
          env.Left moves w₀ remaining rest w := by
  refine (hscripted.returns_now before _).bind fun x w => ?_
  rintro ⟨rfl, hw⟩
  refine (returns_read_left hserves htyped hscripted).bind (fun valueBefore => ?_) w hw
  refine (returns_apply_left hserves htyped hscripted hp).bind fun _ => ?_
  refine (returns_read_left hserves htyped hscripted).bind fun valueAfter => ?_
  refine (hscripted.returns_now after rest).bind fun y w => ?_
  rintro ⟨rfl, hw'⟩
  exact ⟨_, w, rfl, rfl, rfl, rfl, hw'⟩

end Rule
end Cycle

/-! ## An evaluation -/

namespace Auditor

variable {a : Auditor σ} {r : Rule} {key : Text} {p : Payload} {s : Session σ}

section Evaluated

variable {moves : σ → σ → Prop} {w₀ : σ} {remaining : σ → List Int}
  (hserves : a.environment.Serves moves w₀) (htyped : a.environment.Typed moves w₀)
  (hscripted : a.environment.Scripted remaining)

include hserves htyped hscripted

/-- An attempt takes the next two instants as its window. -/
theorem attempt_replayed (key : Text) (hp : r.kind.Accepts p) (w : Window) {rest : List Int} {x : σ}
    (hleft : a.environment.Left moves w₀ remaining (w.readings ++ rest) x) :
    ∃ o y, a.Attempt r key p x y o ⟨p, w⟩ ∧ a.environment.Left moves w₀ remaining rest y := by
  obtain ⟨o, y, hobserve, hbefore, hafter, rfl, hy⟩ :=
    Rule.returns_observe hserves htyped hscripted key hp w.before w.after rest x hleft
  refine ⟨o, y, ⟨hobserve, ?_⟩, hy⟩
  rw [Observation.update, hbefore, hafter, Window.make_of_le w.before_le_after]
  rfl

/-- The step: an evaluation whose window is given records this window as a replay does. -/
theorem run_evaluate_replayed (hp : r.kind.Accepts p) {w : Window} {history : List Window}
    (hhistory : windows (s.history.load ⟨key, r.id⟩) = history) {rest : List Int}
    (hleft : a.environment.Left moves w₀ remaining ((if a.detector.isAmbiguous w history then
      w.readings ++ w.readings else w.readings) ++ rest) s.world)
    (hlenient : s.log.isStrict = false) (hs : s.statistics.Bounded)
    (hlength : history.length ≤ s.statistics.updates)
    (hsize : s.statistics.updates + 1 < Statistics.capacity) :
    ∃ v t, (a.evaluate r key p).run s = (.ok v, t) ∧
      a.environment.Left moves w₀ remaining rest t.world ∧
      windows (t.history.load ⟨key, r.id⟩) = a.detector.next history w ∧
      s.Counted t (a.detector.isAmbiguous w history)
        (if a.detector.isAmbiguous w history then 0 else history.length) := by
  obtain ⟨⟨⟩, w₁, hacquire, hw₁⟩ := Environment.returns_left (hserves.acquire (r.handle key))
    (fun _ hw => .acquire _ hw) (hscripted.acquire _) _ hleft
  subst hhistory
  cases hcase : a.detector.isAmbiguous w (windows (s.history.load ⟨key, r.id⟩)) with
  | false =>
    rw [hcase, if_neg Bool.false_ne_true] at hw₁
    obtain ⟨o, w₂, hattempt, hw₂⟩ := attempt_replayed hserves htyped hscripted key hp w hw₁
    rw [windows, List.length_map] at hlength
    obtain ⟨t, hrun, rfl, hrecorded, hcounted⟩ :=
      (endsWith_of_unambiguous hacquire hattempt hcase).returns hlenient hs hlength hsize
    refine ⟨_, t, hrun, hw₂, ?_, ?_⟩
    · rw [hrecorded, History.load_append, if_pos rfl, a.detector.next_of_unambiguous hcase, windows,
        List.map_append]
      rfl
    · rw [windows, List.length_map]
      exact hcounted
  | true =>
    rw [hcase, if_pos rfl, List.append_assoc] at hw₁
    obtain ⟨o, w₂, hattempt, hw₂⟩ := attempt_replayed hserves htyped hscripted key hp w hw₁
    obtain ⟨⟨⟩, w₃, hclear, hw₃⟩ := Environment.returns_left (hserves.clear (r.handle key))
      (fun _ hw => .clear _ hw) (hscripted.clear _) _ hw₂
    obtain ⟨o', w₄, hattempt', hw₄⟩ := attempt_replayed hserves htyped hscripted key hp w hw₃
    obtain ⟨t, hrun, rfl, hrecorded, hcounted⟩ :=
      (endsWith_of_ambiguous hacquire hattempt hcase hclear hattempt').returns hlenient hs
        (Nat.zero_le _) hsize
    refine ⟨_, t, hrun, hw₄, ?_, hcounted⟩
    rw [hrecorded, History.load_append, if_pos rfl, History.load_clear, if_pos rfl,
      a.detector.next_of_ambiguous hcase]
    rfl

end Evaluated

/-! ## A run -/

/-- An event of the one rule of an auditor leaves what its evaluation leaves. -/
theorem run_process_single {r : Rule} (hrules : a.rules = [r]) {e : Event} {raws : List Json}
    (hraws : a.prepare e = .ok raws) :
    ∃ raw, r.kind.Accepts (.raw raw) ∧ ∀ v t,
      (a.evaluate r e.key (.raw raw)).run { s with events := s.events + 1 } = (.ok v, t) →
        ((a.process e).run s).2.core = t.core := by
  obtain ⟨hlength, haccepts⟩ := accepts_of_prepare hraws
  have hcore := run_process_core hraws s
  rw [hrules] at hlength haccepts hcore
  obtain ⟨raw, rfl⟩ := List.length_eq_one_iff.1 hlength
  refine ⟨raw, haccepts (r, raw) List.mem_cons_self, fun v t hrun => ?_⟩
  rw [hcore, ← run_judge_core v t]
  show ((a.judgeAll e.key [(r, raw)]).run _).2.core = _
  rw [judgeAll, Act.run_bind_ok hrun]
  exact congrArg Session.core (Act.run_bind_pure_snd (judge v) (fun line => line.toList ++ []) t)

/-- The session after some events, whatever comes of them. -/
def advance (a : Auditor σ) (events : List Event) (s : Session σ) : Session σ :=
  events.foldl (fun s e => ((a.process e).run s).2) s

theorem advance_append_singleton (events : List Event) (e : Event) (s : Session σ) :
    a.advance (events ++ [e]) s = ((a.process e).run (a.advance events s)).2 := by
  simp only [advance, List.foldl_append, List.foldl_cons, List.foldl_nil]

/-- A run has followed a replay for a number of windows. -/
structure Follows (a : Auditor σ) (moves : σ → σ → Prop) (w₀ : σ) (remaining : σ → List Int)
    (slot : Slot) (plan : List Window) (rest : List Int) (i : Nat) (s : Session σ) : Prop where
  left : a.environment.Left moves w₀ remaining
    (((a.detector.replay plan).drop i).flatMap ReplayStep.readings ++ rest) s.world
  lenient : s.log.isStrict = false
  recorded : windows (s.history.load slot) = a.detector.historyAfter (plan.take i)
  bounded : s.statistics.Bounded
  updates : s.statistics.updates = i
  clashes : s.statistics.clashes =
    ((a.detector.replay plan).take i).countP fun step => step.verdict.isAmbiguous
  historyLength : s.statistics.historyLength =
    (((a.detector.replay plan).take i).map fun step => step.historyLength - 1).sum

section Follows

variable {moves : σ → σ → Prop} {w₀ : σ} {remaining : σ → List Int} {plan : List Window}
  {rest : List Int}

/-- The step: one event. -/
theorem Follows.process {i : Nat} (h : a.Follows moves w₀ remaining ⟨key, r.id⟩ plan rest i s)
    (hserves : a.environment.Serves moves w₀) (htyped : a.environment.Typed moves w₀)
    (hscripted : a.environment.Scripted remaining) (hrules : a.rules = [r]) {w : Window}
    (hw : plan[i]? = some w) {e : Event} (hkey : e.key = key) {raws : List Json}
    (hraws : a.prepare e = .ok raws) (hsize : i + 1 < Statistics.capacity) :
    a.Follows moves w₀ remaining ⟨key, r.id⟩ plan rest (i + 1) ((a.process e).run s).2 := by
  subst hkey
  have hstep := a.detector.replay_getElem? plan i
  rw [hw, Option.map_some] at hstep
  obtain ⟨raw, haccepts, hcore⟩ := run_process_single (s := s) hrules hraws
  have hlength : (a.detector.historyAfter (plan.take i)).length ≤ s.statistics.updates := by
    rw [h.updates]
    exact Nat.le_trans (a.detector.length_historyAfter_le _) (List.length_take_le _ _)
  have hleft := h.left
  rw [List.drop_eq_getElem?_toList_append, hstep, Option.toList_some, List.singleton_append,
    List.flatMap_cons, List.append_assoc] at hleft
  obtain ⟨v, t, hrun, hleft', hrecorded, hcounted⟩ := run_evaluate_replayed
    (s := { s with events := s.events + 1 }) hserves htyped hscripted haccepts h.recorded hleft
    h.lenient h.bounded hlength (by rw [h.updates]; exact hsize)
  obtain ⟨hworld, hcore⟩ := Prod.mk.inj (hcore v t hrun)
  obtain ⟨hhistory, hstatistics⟩ := Prod.mk.inj hcore
  refine ⟨hworld ▸ hleft', ?_, ?_, ?_, ?_, ?_, ?_⟩
  · exact process_keeps (Session.lasting_isStrict false)
      (fun r _ p _ => evaluate_keeps_isStrict false r e.key p) s h.lenient
  · rw [hhistory, hrecorded, List.take_add_one, hw, Option.toList_some,
      Detector.historyAfter_append_singleton]
  · rw [hstatistics]
    refine hcounted.bounded h.bounded ?_
    split
    · exact Nat.zero_le _
    · exact hlength
  · rw [hstatistics, hcounted.updates, ← h.updates]
  · rw [hstatistics, hcounted.clashes, List.take_add_one, hstep, Option.toList_some,
      List.countP_append, List.countP_singleton, ← h.clashes]
    show _ + (a.detector.judge w _).isAmbiguous.toNat = _
    cases (a.detector.judge w (a.detector.historyAfter (plan.take i))).isAmbiguous <;> rfl
  · rw [hstatistics, hcounted.historyLength, List.take_add_one, hstep, Option.toList_some,
      List.map_append, List.sum_append, List.map_singleton, List.sum_singleton,
      Detector.length_next, Nat.add_sub_cancel, ← h.historyLength]

/-- A run has followed the replay after each of its events. -/
theorem follows_advance {events : List Event} {i : Nat} (hi : i ≤ plan.length)
    (h₀ : a.Follows moves w₀ remaining ⟨key, r.id⟩ plan rest 0 s)
    (hserves : a.environment.Serves moves w₀) (htyped : a.environment.Typed moves w₀)
    (hscripted : a.environment.Scripted remaining) (hrules : a.rules = [r])
    (hevents : events.length = plan.length)
    (haccepted : ∀ e ∈ events, e.key = key ∧ ∃ raws, a.prepare e = .ok raws)
    (hsize : plan.length < Statistics.capacity) :
    a.Follows moves w₀ remaining ⟨key, r.id⟩ plan rest i (a.advance (events.take i) s) := by
  induction i with
  | zero => exact h₀
  | succ i ih =>
    have hplan : plan[i]? = some plan[i] := List.getElem?_eq_getElem hi
    have hless : i < events.length := hevents ▸ hi
    obtain ⟨hkey, raws, hraws⟩ := haccepted events[i] (List.getElem_mem hless)
    rw [List.take_succ_eq_append_getElem hless, advance_append_singleton]
    exact (ih (Nat.le_of_lt hi)).process hserves htyped hscripted hrules hplan hkey hraws
      (Nat.lt_of_le_of_lt hi hsize)

end Follows

/-- A run refines the replay of its windows. The run has one rule and one key; its host
answers every call with a value of the right kind, and its clock reads the instants of
given windows, twice for windows that the replay finds ambiguous. After every event the
history holds the windows of the replayed history, as many as the replay says, and the
event was counted as a clash exactly if its window is ambiguous. At the end the counts of
clashes and of history lengths are those of the replay. -/
theorem run_follows_replay {config : Config} {env : Environment σ} {remaining : σ → List Int}
    {r : Rule} {a : Auditor σ} {w₀ : σ} {log : Log} {key : Text} {events : List Event}
    {plan : List Window} {steps : List ReplayStep} {rest : List Int}
    (ha : make [r] config env = .ok a) (hserves : env.Serves (fun _ _ => False) w₀)
    (htyped : env.Typed (fun _ _ => False) w₀) (hscripted : env.Scripted remaining)
    (hlog : log.isStrict = false)
    (hsteps : replayWindows config.lifetime.amount (plan.map fun w => (w.before, w.after)) =
      .ok steps)
    (hscript : remaining w₀ = steps.flatMap ReplayStep.readings ++ rest)
    (hevents : events.length = plan.length)
    (haccepted : ∀ e ∈ events, e.key = key ∧ ∃ raws, a.prepare e = .ok raws)
    (hsize : plan.length < Statistics.capacity) :
    let d : Detector := ⟨config.lifetime.amount, config.lifetime.amount_pos⟩
    let after (i : Nat) : Session σ := a.advance (events.take i) (.start w₀ log .empty config)
    (∀ i step, steps[i]? = some step →
      windows ((after (i + 1)).history.load ⟨key, r.id⟩) = d.historyAfter (plan.take (i + 1)) ∧
      ((after (i + 1)).history.load ⟨key, r.id⟩).length = step.historyLength ∧
      (after (i + 1)).statistics.clashes =
        (after i).statistics.clashes + step.verdict.isAmbiguous.toNat) ∧
    (after events.length).statistics.clashes =
      steps.countP (fun step => step.verdict.isAmbiguous) ∧
    (after events.length).statistics.historyLength =
      (steps.map fun step => step.historyLength - 1).sum := by
  intro d after
  obtain ⟨hrules, hlifetime, rfl⟩ := make_eq_ok ha
  have hdetector : a.detector = d := Detector.eq_of_lifetime_eq hlifetime
  have hreplay : steps = d.replay plan :=
    Except.ok.inj (hsteps.symm.trans (replayWindows_eq_ok d plan))
  subst hreplay
  have hstart : a.Follows (fun _ _ => False) w₀ remaining ⟨key, r.id⟩ plan rest 0
      (.start w₀ log .empty config) := by
    refine ⟨⟨.start, ?_⟩, hlog, ?_, Statistics.bounded_start _ _, rfl, ?_, ?_⟩
    · rw [hdetector]
      exact hscript
    · rfl
    · rfl
    · rfl
  have hfollows : ∀ i, i ≤ plan.length →
      a.Follows (fun _ _ => False) w₀ remaining ⟨key, r.id⟩ plan rest i (after i) := fun i hi =>
    follows_advance hi hstart hserves htyped hscripted hrules hevents haccepted hsize
  refine ⟨fun i step hstep => ?_, ?_, ?_⟩
  · have hi : i < plan.length := by
      rw [← d.length_replay plan]
      exact (List.getElem?_eq_some_iff.1 hstep).1
    have hbefore := hfollows i (Nat.le_of_lt hi)
    have hafter := hfollows (i + 1) hi
    have hrecorded := hafter.recorded
    rw [hdetector] at hrecorded
    refine ⟨hrecorded, ?_, ?_⟩
    · have hlength := congrArg List.length hrecorded
      rw [windows, List.length_map] at hlength
      rw [hlength]
      have hwindow := d.replay_getElem? plan i
      rw [hstep, List.getElem?_eq_getElem hi] at hwindow
      cases hwindow
      rw [List.take_succ_eq_append_getElem hi, Detector.historyAfter_append_singleton]
    · rw [hafter.clashes, hbefore.clashes, hdetector, List.take_add_one, hstep,
        Option.toList_some, List.countP_append, List.countP_singleton]
      cases step.verdict.isAmbiguous <;> rfl
  · have hall := (hfollows events.length (Nat.le_of_eq hevents)).clashes
    rw [hdetector, hevents, ← d.length_replay plan, List.take_length] at hall
    rw [hevents, ← d.length_replay plan]
    exact hall
  · have hall := (hfollows events.length (Nat.le_of_eq hevents)).historyLength
    rw [hdetector, hevents, ← d.length_replay plan, List.take_length] at hall
    rw [hevents, ← d.length_replay plan]
    exact hall

end Auditor

namespace Behaviour

/-- What is left of the script of a clock. -/
def unread (w : TimeSource × Tables) : List Int := w.1.script.getD []

/-- The verifier has a script of its own, which a store never takes from. -/
theorem scripted_environment (b : Behaviour) : b.environment.Scripted unread := by
  have hhost : ∀ instants, Act.Keeps (fun c : TimeSource => c.script.getD [] = instants)
      TimeSource.hostNow := fun _ _ h => h
  refine ⟨?_, fun h w => ?_, fun h w => ?_, fun h c w => ?_, fun h w => rfl⟩
  · rintro ⟨⟨time, step, script⟩, tables⟩ t rest hleft
    cases script with
    | none => cases hleft
    | some script =>
      cases hleft
      exact ⟨_, rfl, rfl⟩
  · exact clocks_acquire (C := fun c => c.script.getD [] = unread w) h w rfl
  · exact clocks_read (hhost (unread w)) h w rfl
  · exact clocks_write (hhost (unread w)) h c w rfl

end Behaviour

namespace Auditor

/-- Three updates of a value, the last of which clashes with the one before. -/
theorem run_follows_replay_of_three_events :
    let config : Config := ⟨.ofInt 10 (by decide), .ofInt 1000 (by decide)⟩
    let r : Rule := ⟨.value, .whole (.ofInt 10 (by decide))⟩
    let e : Event := ⟨"k", .obj [("value", .int 3)], by decide⟩
    let plan : List Window := [⟨0, 3, by decide⟩, ⟨20, 24, by decide⟩, ⟨30, 36, by decide⟩]
    let w₀ : TimeSource × Tables := (.scripted [0, 3, 20, 24, 30, 36, 30, 36] 0, .empty)
    ∃ a, make [r] config Behaviour.everlasting.environment = .ok a ∧
      ∃ steps, replayWindows 10 (plan.map fun w => (w.before, w.after)) = .ok steps ∧
        Behaviour.unread w₀ = steps.flatMap ReplayStep.readings ++ [] ∧
        let after (i : Nat) := a.advance ([e, e, e].take i) (.start w₀ .lenient .empty config)
        ((after 2).history.load ⟨"k", r.id⟩).length = 2 ∧
          (after 3).statistics.clashes = 1 ∧ (after 3).statistics.historyLength = 1 := by
  intro config r e plan w₀
  obtain ⟨a, ha⟩ : ∃ a, make [r] config Behaviour.everlasting.environment = .ok a := ⟨_, rfl⟩
  have hsteps := replayWindows_eq_ok ⟨10, by decide⟩ plan
  have hscript : Behaviour.unread w₀ =
      (Detector.replay ⟨10, by decide⟩ plan).flatMap ReplayStep.readings ++ [] := by decide
  have haccepted : ∀ e' ∈ [e, e, e], e'.key = "k" ∧ ∃ raws, a.prepare e' = .ok raws := by
    obtain ⟨hrules, -, -⟩ := make_eq_ok ha
    have hraws : a.prepare e = .ok [.int 3] := by
      rw [prepare, hrules]
      rfl
    intro e' he'
    have heq : e' = e := List.eq_of_mem_replicate (n := 3) he'
    exact heq ▸ ⟨rfl, _, hraws⟩
  obtain ⟨hall, hclashes, hlength⟩ := run_follows_replay ha
    (Behaviour.serves_everlasting fun _ => ⟨_, _, rfl⟩)
    (Behaviour.typed_onClocks _ _ _ _ fun _ _ h => h.elim)
    (Behaviour.scripted_environment .everlasting) (rfl : Log.lenient.isStrict = false) hsteps
    hscript rfl haccepted
    (Statistics.lt_capacity (k := 2) (by decide) (by decide))
  obtain ⟨-, htwo, -⟩ := hall 1 ⟨⟨20, 24, by decide⟩, .clean, 2⟩ (by decide)
  exact ⟨a, ha, _, hsteps, hscript, htwo, hclashes, hlength⟩

end Auditor
end ExpiryAudit
