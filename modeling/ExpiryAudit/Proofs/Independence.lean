import ExpiryAudit.Proofs.Coupling
import ExpiryAudit.Proofs.Judgement

/-!
# Keys and rules that do not interfere

Keys and rules share a host, a history, the statistics and a clock, and still the events of a
key and the lines of a rule come out as if they were alone. With a clock that stands still
within an event, the run of one key is the run of its events alone, and a run in which every
event is processed to its end is made of the runs of its rules alone.
-/
namespace ExpiryAudit

/-- The clock is set to an instant, at which it stands still. -/
def Session.atInstant (now : Int) (s : Session (TimeSource × Tables)) :
    Session (TimeSource × Tables) := { s with world := (.stepping now 0, s.world.2) }

namespace Auditor

/-! ## One rule alone -/

section Alone

variable {σ : Type}

/-- The auditor of one of the rules. -/
def alone (a : Auditor σ) (r : Rule) : Auditor σ :=
  ⟨[r], a.detector, a.environment, List.nodup_singleton _⟩

theorem make_alone {a : Auditor σ} {rules : List Rule} {config : Config} {env : Environment σ}
    (ha : make rules config env = .ok a) (r : Rule) : make [r] config env = .ok (a.alone r) := by
  have hsingle : ([r].map (·.id)).Nodup := List.nodup_singleton _
  unfold make at ha ⊢
  rw [dif_pos hsingle]
  split at ha
  · cases ha
    rfl
  · cases ha

/-- Rules in another order make an auditor too, with the same auditors alone. -/
theorem make_perm {a : Auditor σ} {rules others : List Rule} {config : Config}
    {env : Environment σ} (ha : make rules config env = .ok a) (hperm : others.Perm rules) :
    ∃ a', make others config env = .ok a' ∧ ∀ r, a'.alone r = a.alone r := by
  unfold make at ha ⊢
  split at ha
  · next hnodup =>
    cases ha
    exact ⟨_, dif_pos ((hperm.map _).nodup_iff.2 hnodup), fun _ => rfl⟩
  · cases ha

theorem alone_judgeAll (a : Auditor σ) (r : Rule) (key : Text) (pairs : List (Rule × Json)) :
    (a.alone r).judgeAll key pairs = a.judgeAll key pairs := by
  induction pairs with
  | nil => rfl
  | cons pair rest ih =>
    rw [judgeAll, judgeAll, ih]
    rfl

/-- Rules are judged one after another. -/
theorem judgeAll_cons (a : Auditor σ) (key : Text) (x : Rule × Json)
    (rest : List (Rule × Json)) :
    a.judgeAll key (x :: rest) = do
      let found ← a.judgeAll key [x]
      let more ← a.judgeAll key rest
      return found ++ more := by
  simp only [judgeAll, bind_assoc, pure_bind, List.append_nil]

/-- An event that is accepted is accepted by each rule alone. -/
theorem prepare_alone {a : Auditor σ} {e : Event} {raws : List Json}
    (hraws : a.prepare e = .ok raws) {x : Rule × Json} (hx : x ∈ a.rules.zip raws) :
    (a.alone x.1).prepare e = .ok [x.2] := by
  have hone := List.forall₂_zip (mapM_eq_ok_iff.1 hraws) hx
  exact mapM_eq_ok_iff.2 (.cons hone .nil)

/-- What comes of an accepted event for a rule alone is what comes of the rule, but for the
record of the event. -/
theorem run_process_alone {a : Auditor σ} {e : Event} {raws : List Json}
    (hraws : a.prepare e = .ok raws) {x : Rule × Json} (hx : x ∈ a.rules.zip raws)
    (s : Session σ) :
    ∃ log : Log,
      log.isStrict =
        ((a.judgeAll e.key [x]).run { s with events := s.events + 1 }).2.log.isStrict ∧
      ((a.alone x.1).process e).run s =
        (((a.judgeAll e.key [x]).run { s with events := s.events + 1 }).1,
          { ((a.judgeAll e.key [x]).run { s with events := s.events + 1 }).2 with log := log }) := by
  refine run_process_accepted (prepare_alone hraws hx) ?_
  rw [alone_judgeAll]
  rfl

/-- An event that is accepted by each rule alone is accepted. -/
theorem prepare_of_alone {a : Auditor σ} {e : Event}
    (h : ∀ r ∈ a.rules, ∃ raws, (a.alone r).prepare e = .ok raws) :
    ∃ raws, a.prepare e = .ok raws := by
  refine exists_mapM_eq_ok fun r hr => ?_
  obtain ⟨raws, hraws⟩ := h r hr
  cases mapM_eq_ok_iff.1 hraws with
  | cons hone _ => exact ⟨_, hone⟩

end Alone

/-! ## Rules side by side -/

/-- The lines of an event, none if it is not processed to its end. -/
def linesOf : Except Fault (List String) → List String
  | .ok lines => lines
  | .error _ => []

/-- The slots of a rule. -/
abbrev OfRule (r : Rule) (slot : Slot) : Prop := slot.name = r.id

section Apart

variable {κ : Type} {b : Behaviour} {hostClock clock : Act κ Int} {a : Auditor (κ × Tables)}
  {key : Text} {c : κ}

/-- A clock that stands still is left in its state. -/
theorem evaluate_keeps_clock (ha : a.environment = b.onClocks hostClock clock)
    (hhost : Act.Keeps (· = c) hostClock) (hclock : Act.Keeps (· = c) clock) (r : Rule)
    (p : Payload) :
    Act.Keeps (fun s : Session (κ × Tables) => s.world.1 = c) (a.evaluate r key p) := by
  have hacquire : Act.Keeps (Behaviour.OfClocks (· = c))
      ((b.host hostClock).acquire (r.handle key)) := Behaviour.clocks_acquire _
  have hread : Act.Keeps (Behaviour.OfClocks (· = c)) ((b.host hostClock).read (r.handle key)) :=
    Behaviour.clocks_read hhost _
  have hobserve : Act.Keeps (Behaviour.OfClocks (· = c))
      (r.observe (b.onClocks hostClock clock) (r.handle key) p) :=
    Rule.observe_keeps (fun w hw => hclock w.1 hw) hread
      (Rule.apply_keeps hread (Behaviour.clocks_write hhost _))
  exact PartsKeep.evaluate
    { acquire := by
        rw [ha]
        exact fun s hs => hacquire s.world hs
      clear := by
        rw [ha]
        exact fun _ hs => hs
      observe := by
        rw [ha]
        exact fun s hs => hobserve s.world hs
      report := fun _ _ hs => hs
      statistics := fun _ _ hs => hs
      forget := fun _ hs => hs
      record := fun _ _ _ hs => hs }

/-- The session of an audit of all rules and those of audits of single rules, each of which
agrees with it on the slots of its rule. -/
structure Apart (a : Auditor (κ × Tables)) (n : Nat) (s : Session (κ × Tables))
    (t : Rule → Session (κ × Tables)) : Prop where
  spare : Statistics.Spare n s.history s.statistics
  single : ∀ r ∈ a.rules, s.AgreeOn (OfRule r) (t r) ∧
    Statistics.Spare n (t r).history (t r).statistics

section Standing

variable (ha : a.environment = b.onClocks hostClock clock)
  (hhost : Act.Keeps (· = c) hostClock) (hclock : Act.Keeps (· = c) clock)

include ha hhost hclock

theorem judgeAll_keeps_clock (key : Text) (pairs : List (Rule × Json)) :
    Act.Keeps (fun s : Session (κ × Tables) => s.world.1 = c) (a.judgeAll key pairs) :=
  judgeAll_keeps ⟨fun _ _ hs => hs, fun _ _ hs => hs, fun _ _ hs => hs⟩
    fun x _ => evaluate_keeps_clock ha hhost hclock x.1 _

/-- The rules of an event come out as each of them does alone: they return if all single
rules do, and then with their lines one after another, and agreeing with each of them on its
slots. -/
theorem judgeAll_apart {pairs : List (Rule × Json)} {n : Nat} {s : Session (κ × Tables)}
    {t : Rule → Session (κ × Tables)} (hnodup : (pairs.map (·.1.id)).Nodup) (hs : s.world.1 = c)
    (hst : ∀ x ∈ pairs, s.Linked (OfRule x.1) (Statistics.Spare (n + pairs.length)) (t x.1)) :
    let found (x : Rule × Json) := (a.judgeAll key [x]).run (t x.1)
    (((a.judgeAll key pairs).run s).1.isOk ↔ ∀ x ∈ pairs, (found x).1.isOk) ∧
    (((a.judgeAll key pairs).run s).1.isOk →
      linesOf ((a.judgeAll key pairs).run s).1 = (pairs.flatMap fun x => linesOf (found x).1) ∧
      ∀ x ∈ pairs, ((a.judgeAll key pairs).run s).2.AgreeOn (OfRule x.1) (found x).2) := by
  intro found
  induction pairs generalizing s with
  | nil =>
    exact ⟨⟨fun _ _ hx => (nomatch hx), fun _ => rfl⟩, fun _ => ⟨rfl, fun _ hx => (nomatch hx)⟩⟩
  | cons x rest ih =>
    obtain ⟨hfresh, hrestNodup⟩ := List.nodup_cons.1 hnodup
    obtain ⟨hfirst, hrest⟩ := List.forall_mem_cons.1 hst
    have hothers : ∀ y ∈ rest, ¬OfRule x.1 ⟨key, y.1.id⟩ := fun y hy hid =>
      hfresh (List.mem_map.2 ⟨y, hy, hid⟩)
    have hsingle : Act.Respects
        (Session.Linked (OfRule x.1) (Statistics.Spare (n + rest.length + [x].length)))
        (Session.Linked (OfRule x.1) (Statistics.Spare (n + rest.length))) (a.judgeAll key [x]) :=
      respects_judgeAll ha fun y hy => congrArg (·.1.id) (List.mem_singleton.1 hy)
    rw [judgeAll_cons]
    cases hrun : (a.judgeAll key [x]).run s with
    | mk result s₁ =>
      obtain ⟨hresult, hlinked⟩ : result = (found x).1 ∧
          s₁.Linked (OfRule x.1) (Statistics.Spare (n + rest.length)) (found x).2 :=
        hsingle.of_run hrun rfl hfirst
      cases result with
      | error f =>
        rw [Act.run_bind_error hrun]
        refine ⟨⟨fun h => (nomatch h), fun h => ?_⟩, fun h => (nomatch h)⟩
        have hok := h x List.mem_cons_self
        rw [← hresult] at hok
        cases hok
      | ok lines =>
        rw [Act.run_bind_ok hrun]
        -- The first rule has left the slots of the others and the clock as they were.
        have hclock₁ := (judgeAll_keeps_clock ha hhost hclock key [x]).of_run hrun hs
        have hrest₁ : ∀ y ∈ rest,
            s₁.Linked (OfRule y.1) (Statistics.Spare (n + rest.length)) (t y.1) := fun y hy => by
          have hother : ∀ z ∈ [x], ¬OfRule y.1 ⟨key, z.1.id⟩ :=
            List.forall_mem_singleton.2 (Ne.symm (hothers y hy))
          have hy₁ := (judgeAll_keeps_agreeOn ha hother (t y.1)).of_run hrun (hrest y hy).toAgreeOn
          exact ⟨hy₁, hclock₁.trans (hs.symm.trans (hrest y hy).clock), hlinked.left,
            (hrest y hy).right.mono (Nat.le_succ _)⟩
        obtain ⟨hiff, hok⟩ := ih hrestNodup hclock₁ hrest₁
        have hfirstLast := judgeAll_keeps_agreeOn ha hothers (found x).2 s₁
          hlinked.toAgreeOn
        rw [List.forall_mem_cons, ← hresult, List.flatMap_cons, ← hresult]
        cases hmore : (a.judgeAll key rest).run s₁ with
        | mk more s₂ =>
          rw [hmore] at hiff hok hfirstLast
          cases more with
          | error f =>
            rw [Act.run_bind_error hmore]
            exact ⟨⟨fun h => (nomatch h), fun h => (nomatch hiff.2 h.2)⟩, fun h => (nomatch h)⟩
          | ok more =>
            rw [Act.run_bind_ok hmore]
            obtain ⟨hlines, hagree⟩ := hok rfl
            refine ⟨⟨fun _ => ⟨rfl, hiff.1 rfl⟩, fun _ => rfl⟩, fun _ => ⟨?_, ?_⟩⟩
            · exact congrArg (lines ++ ·) hlines
            · exact List.forall_mem_cons.2 ⟨hfirstLast, hagree⟩

/-- An event comes out as it does for each rule alone. -/
theorem process_apart {e : Event} {n : Nat} {s : Session (κ × Tables)}
    {t : Rule → Session (κ × Tables)} (h : a.Apart (n + a.rules.length) s t)
    (hs : s.world.1 = c) (ht : ∀ r, (t r).world.1 = c) :
    (((a.process e).run s).1.isOk ↔
      ∀ r ∈ a.rules, (((a.alone r).process e).run (t r)).1.isOk) ∧
    (((a.process e).run s).1.isOk →
      linesOf ((a.process e).run s).1 =
        (a.rules.flatMap fun r => linesOf (((a.alone r).process e).run (t r)).1) ∧
      a.Apart n ((a.process e).run s).2 fun r => (((a.alone r).process e).run (t r)).2) := by
  cases hraws : a.prepare e with
  | error f =>
    rw [run_process_refused hraws]
    refine ⟨⟨fun hok => (nomatch hok), fun hall => ?_⟩, fun hok => (nomatch hok)⟩
    have halone : ∀ r ∈ a.rules, ∃ raws, (a.alone r).prepare e = .ok raws := fun r hr => by
      cases hone : (a.alone r).prepare e with
      | ok raws => exact ⟨raws, rfl⟩
      | error f =>
        have hok := hall r hr
        rw [run_process_refused hone] at hok
        cases hok
    obtain ⟨raws, hok⟩ := prepare_of_alone halone
    cases hraws.symm.trans hok
  | ok raws =>
    let pairs := a.rules.zip raws
    obtain ⟨hfst, hnodup, hlength⟩ :
        pairs.map (·.1) = a.rules ∧ (pairs.map (·.1.id)).Nodup ∧ pairs.length = a.rules.length :=
      pairs_of_prepare hraws
    have hall : ∀ {p : Rule → Prop}, (∀ r ∈ a.rules, p r) ↔ ∀ x ∈ pairs, p x.1 := by
      rw [← hfst]
      exact List.forall_mem_map
    have hlinked : ∀ x ∈ pairs, Session.Linked (OfRule x.1) (Statistics.Spare (n + pairs.length))
        { s with events := s.events + 1 } { t x.1 with events := (t x.1).events + 1 } := by
      intro x hx
      obtain ⟨hagree, hspare⟩ := h.single x.1 (List.of_mem_zip hx).1
      rw [hlength]
      exact ⟨⟨hagree.tables, hagree.history, hagree.isStrict⟩, hs.trans (ht x.1).symm, h.spare,
        hspare⟩
    obtain ⟨hiff, hok⟩ := judgeAll_apart (s := { s with events := s.events + 1 })
      (t := fun r => { t r with events := (t r).events + 1 }) ha hhost hclock hnodup hs hlinked
    -- What is found for a rule is what comes of the event for the rule alone.
    let found (x : Rule × Json) : Except Fault (List String) × Session (κ × Tables) :=
      (a.judgeAll e.key [x]).run { t x.1 with events := (t x.1).events + 1 }
    have halone : ∀ x ∈ pairs, (((a.alone x.1).process e).run (t x.1)).1 = (found x).1 ∧
        ∀ s : Session (κ × Tables), s.AgreeOn (OfRule x.1) (found x).2 →
          s.AgreeOn (OfRule x.1) (((a.alone x.1).process e).run (t x.1)).2 := by
      intro x hx
      obtain ⟨log, hlog, hrun⟩ := run_process_alone hraws hx (t x.1)
      rw [hrun]
      exact ⟨rfl, fun s hs => ⟨hs.tables, hs.history, hs.isStrict.trans hlog.symm⟩⟩
    cases hjudged : (a.judgeAll e.key pairs).run { s with events := s.events + 1 } with
    | mk result s' =>
      obtain ⟨log, hlog, hrun⟩ := run_process_accepted hraws hjudged
      rw [hjudged] at hiff hok
      have hspare := spare_process ha (e := e) h.spare
      rw [hrun] at hspare ⊢
      refine ⟨?_, fun hresult => ⟨?_, hspare, ?_⟩⟩
      · rw [hall]
        exact hiff.trans (forall₂_congr fun x hx => by rw [(halone x hx).1])
      · rw [(hok hresult).1, ← hfst, List.flatMap_map]
        exact List.flatMap_congr fun x hx => by rw [(halone x hx).1]
      · rw [hall]
        intro x hx
        have hr : x.1 ∈ a.rules := (List.of_mem_zip hx).1
        have hagree := (hok hresult).2 x hx
        have hroom : n + (a.alone x.1).rules.length ≤ n + a.rules.length :=
          Nat.add_le_add_left (List.length_pos_of_mem hr) n
        exact ⟨(halone x hx).2 _ ⟨hagree.tables, hagree.history, hlog.trans hagree.isStrict⟩,
          spare_process (a := a.alone x.1) ha ((h.single x.1 hr).2.mono hroom)⟩

end Standing

end Apart

/-! ## Events at given instants -/

/-- Events at given instants, whatever comes of them, which is kept with their keys. The clock
is set to the instant of an event and stands still until the next one. -/
def processAt (a : Auditor (TimeSource × Tables)) :
    List (Int × Event) → Session (TimeSource × Tables) →
      List (Text × Except Fault (List String)) × Session (TimeSource × Tables)
  | [], s => ([], s)
  | (now, e) :: rest, s =>
    let first := (a.process e).run (s.atInstant now)
    let others := a.processAt rest first.2
    ((e.key, first.1) :: others.1, others.2)

/-- Every event was processed to its end. -/
def AllReturn (results : List (Text × Except Fault (List String))) : Prop :=
  ∀ x ∈ results, x.2.isOk

instance (results : List (Text × Except Fault (List String))) : Decidable (AllReturn results) :=
  inferInstanceAs (Decidable (∀ x ∈ results, x.2.isOk = true))

/-- The lines of one of the events. -/
def linesAt (results : List (Text × Except Fault (List String))) (i : Nat) : List String :=
  (results[i]?.map fun x => linesOf x.2).getD []

section Timed

variable {b : Behaviour} {a : Auditor (TimeSource × Tables)}

theorem keeps_hostNow (now : Int) : Act.Keeps (· = TimeSource.stepping now 0) TimeSource.hostNow := by
  rintro c rfl
  simp [TimeSource.hostNow, TimeSource.stepping, Act.run]

theorem keeps_now (now : Int) : Act.Keeps (· = TimeSource.stepping now 0) TimeSource.now := by
  rintro c rfl
  exact keeps_hostNow now _ rfl

variable (ha : a.environment = b.environment)

include ha

/-- The events of a key come out as they do alone. -/
theorem processAt_filter (key : Text) {plan : List (Int × Event)}
    {s t : Session (TimeSource × Tables)} (hst : s.AgreeOn (·.key = key) t)
    (hs : Statistics.Spare (plan.length * a.rules.length) s.history s.statistics)
    (ht : Statistics.Spare (plan.length * a.rules.length) t.history t.statistics) :
    (a.processAt plan s).1.filter (·.1 = key) =
        (a.processAt (plan.filter (·.2.key = key)) t).1 ∧
      (a.processAt plan s).2.AgreeOn (·.key = key)
        (a.processAt (plan.filter (·.2.key = key)) t).2 := by
  induction plan generalizing s t with
  | nil => exact ⟨rfl, hst⟩
  | cons x rest ih =>
    obtain ⟨now, e⟩ := x
    rw [List.length_cons, Nat.succ_mul] at hs ht
    have hinstant : (s.atInstant now).AgreeOn (·.key = key) (t.atInstant now) :=
      ⟨hst.tables, hst.history, hst.isStrict⟩
    by_cases hkey : e.key = key
    · obtain ⟨hresult, hnext⟩ := respects_process (P := (·.key = key)) ha (fun _ _ => hkey)
        (s.atInstant now) (t.atInstant now) ⟨hinstant, rfl, hs, ht⟩
      obtain ⟨hresults, hlast⟩ := ih hnext.toAgreeOn hnext.left hnext.right
      rw [List.filter_cons_of_pos (by simpa using hkey), processAt, processAt]
      refine ⟨?_, hlast⟩
      rw [List.filter_cons_of_pos (by simpa using hkey), hresults, hresult]
    · have hnext := process_keeps_agreeOn (e := e) ha (fun _ _ => hkey) t (s.atInstant now)
        ⟨hst.tables, hst.history, hst.isStrict⟩
      obtain ⟨hresults, hlast⟩ := ih hnext (spare_process ha (s := s.atInstant now) hs)
        (ht.mono (Nat.le_add_right _ _))
      rw [List.filter_cons_of_neg (by simpa using hkey), processAt]
      refine ⟨?_, hlast⟩
      rw [List.filter_cons_of_neg (by simpa using hkey), hresults]

/-- A run in which every event is processed to its end is made of the runs of its rules alone,
which then process every event to its end too. -/
theorem processAt_apart {plan : List (Int × Event)} {s : Session (TimeSource × Tables)}
    {t : Rule → Session (TimeSource × Tables)} (h : a.Apart (plan.length * a.rules.length) s t) :
    (AllReturn (a.processAt plan s).1 ↔
      ∀ r ∈ a.rules, AllReturn ((a.alone r).processAt plan (t r)).1) ∧
    (AllReturn (a.processAt plan s).1 →
      (∀ i, linesAt (a.processAt plan s).1 i =
        a.rules.flatMap fun r => linesAt ((a.alone r).processAt plan (t r)).1 i) ∧
      ∀ r ∈ a.rules,
        (a.processAt plan s).2.AgreeOn (OfRule r) ((a.alone r).processAt plan (t r)).2) := by
  induction plan generalizing s t with
  | nil =>
    refine ⟨⟨fun _ _ _ _ hx => (nomatch hx), fun _ _ hx => (nomatch hx)⟩, fun _ => ⟨fun i => ?_, ?_⟩⟩
    · simp [processAt, linesAt]
    · exact fun r hr => (h.single r hr).1
  | cons x rest ih =>
    obtain ⟨now, e⟩ := x
    rw [List.length_cons, Nat.succ_mul] at h
    have hinstant : a.Apart (rest.length * a.rules.length + a.rules.length) (s.atInstant now)
        fun r => (t r).atInstant now :=
      ⟨h.spare, fun r hr => ⟨⟨(h.single r hr).1.tables, (h.single r hr).1.history,
        (h.single r hr).1.isStrict⟩, (h.single r hr).2⟩⟩
    obtain ⟨hiff, hok⟩ := process_apart (e := e) ha (keeps_hostNow now) (keeps_now now) hinstant rfl
      fun _ => rfl
    simp only [processAt, AllReturn, List.forall_mem_cons] at ih ⊢
    refine ⟨⟨?_, ?_⟩, ?_⟩
    · rintro ⟨hfirst, hrest⟩ r hr
      exact ⟨hiff.1 hfirst r hr, (ih (hok hfirst).2).1.1 hrest r hr⟩
    · intro hall
      have hfirst := hiff.2 fun r hr => (hall r hr).1
      exact ⟨hfirst, (ih (hok hfirst).2).1.2 fun r hr => (hall r hr).2⟩
    · rintro ⟨hfirst, hrest⟩
      obtain ⟨hlines, hagree⟩ := (ih (hok hfirst).2).2 hrest
      refine ⟨fun i => ?_, hagree⟩
      cases i with
      | zero => exact (hok hfirst).1
      | succ i => exact hlines i

/-- A run changes nothing in a region without slots of its rules. -/
theorem processAt_elsewhere {P : Slot → Prop} (hP : ∀ r ∈ a.rules, ∀ key, ¬P ⟨key, r.id⟩)
    (plan : List (Int × Event)) {s t : Session (TimeSource × Tables)} (hst : s.AgreeOn P t) :
    (a.processAt plan s).2.AgreeOn P t := by
  induction plan generalizing s with
  | nil => exact hst
  | cons x rest ih =>
    exact ih (process_keeps_agreeOn ha (fun r hr => hP r hr _) t _
      ⟨hst.tables, hst.history, hst.isStrict⟩)

end Timed

/-- At the start there is room for as many updates as a double can count. -/
theorem spare_start {n : Nat} (hn : n < Statistics.capacity) (config : Config) :
    Statistics.Spare n .empty
      (.start config.reportEvery.amount config.reportEvery.amount_pos) where
  bounded := Statistics.bounded_start _ _
  length_le := fun _ => Nat.le_refl 0
  room := by
    show 0 + n < _
    omega

section Made

variable {b : Behaviour} {rules : List Rule} {config : Config} {a : Auditor (TimeSource × Tables)}
  {plan : List (Int × Event)} {s : Session (TimeSource × Tables)}

/-- The run of an auditor and those of its rules alone, from one session. -/
theorem processAt_alone (ha : make rules config b.environment = .ok a)
    (hs : Statistics.Spare (plan.length * rules.length) s.history s.statistics) :
    (AllReturn (a.processAt plan s).1 ↔
      ∀ r ∈ rules, AllReturn ((a.alone r).processAt plan s).1) ∧
    (AllReturn (a.processAt plan s).1 →
      (∀ i, linesAt (a.processAt plan s).1 i =
        rules.flatMap fun r => linesAt ((a.alone r).processAt plan s).1 i) ∧
      ∀ r ∈ rules, (a.processAt plan s).2.AgreeOn (OfRule r) ((a.alone r).processAt plan s).2) := by
  obtain ⟨rfl, -, henv⟩ := make_eq_ok ha
  exact processAt_apart (t := fun _ => s) henv ⟨hs, fun r _ => ⟨.refl _ s, hs⟩⟩

/-- Rules in another order give lines in another order and leave the same. -/
theorem processAt_perm {others : List Rule} {a' : Auditor (TimeSource × Tables)}
    (ha : make rules config b.environment = .ok a)
    (ha' : make others config b.environment = .ok a') (hperm : others.Perm rules)
    (halone : ∀ r, a'.alone r = a.alone r)
    (hs : Statistics.Spare (plan.length * rules.length) s.history s.statistics)
    (hreturn : AllReturn (a.processAt plan s).1) :
    AllReturn (a'.processAt plan s).1 ∧
      (∀ i, (linesAt (a'.processAt plan s).1 i).Perm (linesAt (a.processAt plan s).1 i)) ∧
      (a'.processAt plan s).2.history = (a.processAt plan s).2.history ∧
      (a'.processAt plan s).2.world.2 = (a.processAt plan s).2.world.2 := by
  obtain ⟨hiff, hok⟩ := processAt_alone ha hs
  obtain ⟨hiff', hok'⟩ := processAt_alone ha' (hperm.length_eq.symm ▸ hs)
  simp only [halone] at hiff' hok'
  have hreturn' : AllReturn (a'.processAt plan s).1 := hiff'.2 fun r hr =>
    hiff.1 hreturn r (hperm.mem_iff.1 hr)
  obtain ⟨hlines, hagree⟩ := hok hreturn
  obtain ⟨hlines', hagree'⟩ := hok' hreturn'
  refine ⟨hreturn', fun i => ?_, Session.eq_of_agreeOn fun slot => ?_⟩
  · rw [hlines, hlines']
    exact hperm.flatMap_right _
  · by_cases hslot : ∃ r ∈ rules, OfRule r slot
    · obtain ⟨r, hr, hname⟩ := hslot
      exact ⟨OfRule r, hname, (hagree' r (hperm.mem_iff.2 hr)).of_common (hagree r hr)⟩
    · -- No rule has the slot, so both runs leave it as it was.
      obtain ⟨rfl, -, henv⟩ := make_eq_ok ha
      obtain ⟨rfl, -, henv'⟩ := make_eq_ok ha'
      let P (slot : Slot) : Prop := ¬∃ r ∈ a.rules, OfRule r slot
      have hnone : ∀ r ∈ a.rules, ∀ key, ¬P ⟨key, r.id⟩ := fun r hr _ hnone =>
        hnone ⟨r, hr, rfl⟩
      have hwhole := processAt_elsewhere henv hnone plan (.refl P s)
      have hpermuted := processAt_elsewhere henv' (fun r hr => hnone r (hperm.mem_iff.1 hr)) plan
        (.refl P s)
      exact ⟨P, hslot, hpermuted.of_common hwhole⟩

end Made

/-- Keys and rules do not interfere. Events over any keys are processed at any instants by any
rules, whatever comes of them, against a reference store over a clock that stands still within
an event. What comes of the events of a key, and what host and history hold under the key in the
end, is as in a run of these events alone. Every event is processed to its end exactly if this is
so for each rule alone. Then the lines of an event are those of the rules alone, one rule after
another, and host and history hold in the slots of a rule what they hold for the rule alone. So
rules in another order give the lines of every event in another order, and leave the same host
and the same history. -/
theorem keys_and_rules_independent {b : Behaviour} {rules : List Rule} {config : Config}
    {a : Auditor (TimeSource × Tables)} {c : TimeSource} {log : Log} {plan : List (Int × Event)}
    (ha : make rules config b.environment = .ok a)
    (hsize : plan.length * rules.length < Statistics.capacity) :
    let s₀ : Session (TimeSource × Tables) := .start (c, .empty) log .empty config
    let whole := a.processAt plan s₀
    let alone (r : Rule) := (a.alone r).processAt plan s₀
    (∀ key,
      let part := a.processAt (plan.filter (·.2.key = key)) s₀
      whole.1.filter (·.1 = key) = part.1 ∧ whole.2.AgreeOn (·.key = key) part.2) ∧
    (∀ r, make [r] config b.environment = .ok (a.alone r)) ∧
    (AllReturn whole.1 ↔ ∀ r ∈ rules, AllReturn (alone r).1) ∧
    (AllReturn whole.1 →
      (∀ i, linesAt whole.1 i = rules.flatMap fun r => linesAt (alone r).1 i) ∧
      (∀ r ∈ rules, whole.2.AgreeOn (·.name = r.id) (alone r).2) ∧
      ∀ others : List Rule, others.Perm rules →
        ∃ a', make others config b.environment = .ok a' ∧
          let permuted := a'.processAt plan s₀
          AllReturn permuted.1 ∧ (∀ i, (linesAt permuted.1 i).Perm (linesAt whole.1 i)) ∧
            permuted.2.history = whole.2.history ∧ permuted.2.world.2 = whole.2.world.2) := by
  intro s₀ whole alone
  obtain ⟨hrules, -, henv⟩ := make_eq_ok ha
  have hs₀ : Statistics.Spare (plan.length * rules.length) s₀.history s₀.statistics :=
    spare_start hsize config
  obtain ⟨hiff, hok⟩ := processAt_alone ha hs₀
  refine ⟨fun key => ?_, make_alone ha, hiff, fun hreturn => ?_⟩
  · exact processAt_filter henv key (.refl _ s₀) (hrules.symm ▸ hs₀) (hrules.symm ▸ hs₀)
  · obtain ⟨hlines, hagree⟩ := hok hreturn
    refine ⟨hlines, hagree, fun others hperm => ?_⟩
    obtain ⟨a', ha', halone⟩ := make_perm ha hperm
    exact ⟨a', ha', processAt_perm ha ha' hperm halone hs₀ hreturn⟩

/-- Two rules over two keys, against a store that forgets what is written to single values. -/
theorem keys_and_rules_independent_of_three_events :
    let config : Config := ⟨.ofInt 10 (by decide), .ofInt 1000 (by decide)⟩
    let value : Rule := ⟨.value, .whole (.ofInt 10 (by decide))⟩
    let list : Rule := ⟨.list, .whole (.ofInt 10 (by decide))⟩
    let e : Event := ⟨"k", .obj [("value", .int 1), ("list", .int 2)], by decide⟩
    let f : Event := ⟨"l", .obj [("value", .int 3), ("list", .int 4)], by decide⟩
    let plan : List (Int × Event) := [(0, e), (5, f), (20, e)]
    let s₀ : Session (TimeSource × Tables) := .start (.stepping 0 0, .empty) .lenient .empty config
    ∃ a, make [value, list] config Behaviour.forgetful.environment = .ok a ∧
      plan.length * [value, list].length < Statistics.capacity ∧
      let whole := a.processAt plan s₀
      whole.1.filter (·.1 = e.key) = (a.processAt [(0, e), (20, e)] s₀).1 ∧
        AllReturn whole.1 ∧ (linesAt whole.1 2).length = 1 ∧
        linesAt whole.1 2 = linesAt ((a.alone value).processAt plan s₀).1 2 ++
          linesAt ((a.alone list).processAt plan s₀).1 2 ∧
        ∃ a', make [list, value] config Behaviour.forgetful.environment = .ok a' ∧
          (a'.processAt plan s₀).2.history = whole.2.history := by
  intro config value list e f plan
  dsimp only
  let a : Auditor (TimeSource × Tables) :=
    ⟨[value, list], ⟨10, by decide⟩, Behaviour.forgetful.environment, by decide⟩
  have ha : make [value, list] config Behaviour.forgetful.environment = .ok a := rfl
  have hsize : plan.length * [value, list].length < Statistics.capacity :=
    Statistics.lt_capacity (k := 3) (by decide) (by decide)
  obtain ⟨hkeys, -, -, hrules⟩ := @keys_and_rules_independent Behaviour.forgetful [value, list]
    config a (.stepping 0 0) .lenient plan ha hsize
  obtain ⟨hlines, -, hperm⟩ := hrules (by decide +kernel)
  obtain ⟨a', ha', -, -, hhistory, -⟩ := hperm [list, value] (.swap _ _ _)
  refine ⟨a, ha, hsize, (hkeys e.key).1, by decide +kernel, by decide +kernel, ?_, a', ha', hhistory⟩
  rw [hlines, List.flatMap_cons, List.flatMap_cons, List.flatMap_nil, List.append_nil]

/-- A rule can depend on the one before it if an event is not processed to its end: a line in
which a number has too many digits cannot be written, and the rules after it are left out. -/
theorem rule_left_out_after_unwritable_line :
    let config : Config := ⟨.ofInt 10 (by decide), .ofInt 1000 (by decide)⟩
    let reducing : Rule := ⟨.reducing, .whole (.ofInt 10 (by decide))⟩
    let value : Rule := ⟨.value, .whole (.ofInt 10 (by decide))⟩
    let e : Event :=
      ⟨"k", .obj [("reducing", .int (10 ^ 4300 - 1 : Nat)), ("value", .int 1)], by decide⟩
    let plan : List (Int × Event) := [(0, e), (100, e)]
    let s₀ : Session (TimeSource × Tables) := .start (.stepping 0 0, .empty) .lenient .empty config
    ∃ a, make [reducing, value] config Behaviour.everlasting.environment = .ok a ∧
      (a.prepare e).isOk ∧
      make [value] config Behaviour.everlasting.environment = .ok (a.alone value) ∧
      ¬(a.processAt plan s₀).2.AgreeOn (·.name = value.id)
        ((a.alone value).processAt plan s₀).2 := by
  intro config reducing value e plan s₀
  let a : Auditor (TimeSource × Tables) :=
    ⟨[reducing, value], ⟨10, by decide⟩, Behaviour.everlasting.environment, by decide⟩
  refine ⟨a, rfl, by decide +kernel, rfl, fun hagree => ?_⟩
  have hwhole : ((a.processAt plan s₀).2.history.load ⟨"k", value.id⟩).length = 1 := by
    decide +kernel
  have halone : (((a.alone value).processAt plan s₀).2.history.load ⟨"k", value.id⟩).length = 2 := by
    decide +kernel
  rw [hagree.history ⟨"k", value.id⟩ rfl, halone] at hwhole
  cases hwhole

end Auditor
end ExpiryAudit
