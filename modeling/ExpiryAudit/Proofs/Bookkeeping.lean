import ExpiryAudit.Proofs.Averages
import ExpiryAudit.Proofs.Failure
import ExpiryAudit.Proofs.SteadyClock

/-!
# Counted and recorded updates

An update is counted and recorded at different moments of an evaluation, and a host or a
clock may fail between them. With a steady clock the statistics still count exactly the
updates that were ever recorded, whatever comes of the events of a run.
-/
namespace ExpiryAudit

variable {σ : Type}

/-- The last update of a slot, with the slot. -/
def History.last (h : History) (slot : Slot) : List (Slot × Update) :=
  (h.load slot).getLast?.toList.map fun u => (slot, u)

namespace Auditor

/-- What the evaluations of some rules record, up to the first rule that fails. An
evaluation records its update when it returns. -/
def recordedOf (a : Auditor σ) (key : Text) :
    List (Rule × Json) → Session σ → List (Slot × Update)
  | [], _ => []
  | (r, raw) :: rest, s =>
    match (a.evaluate r key (.raw raw)).run s with
    | (.error _, _) => []
    | (.ok v, t) =>
      t.history.last ⟨key, r.id⟩ ++
        match (judge v).run t with
        | (.error _, _) => []
        | (.ok _, u) => recordedOf a key rest u

/-- What an event records, whatever comes of it. -/
def recorded (a : Auditor σ) (e : Event) (s : Session σ) : List (Slot × Update) :=
  match a.prepare e with
  | .ok raws => a.recordedOf e.key (a.rules.zip raws) { s with events := s.events + 1 }
  | .error _ => []

/-- The sessions that a run comes to, whatever comes of its events, with everything that was
recorded until then. -/
inductive Records (a : Auditor σ) (moves : σ → σ → Prop) (s₀ : Session σ) :
    Session σ → List (Slot × Update) → Prop
  | start : Records a moves s₀ s₀ []
  | process {s : Session σ} {entries : List (Slot × Update)} (e : Event) :
      Records a moves s₀ s entries →
      Records a moves s₀ ((a.process e).run s).2 (entries ++ a.recorded e s)
  | move {s : Session σ} {entries : List (Slot × Update)} {w : σ} :
      Records a moves s₀ s entries → moves s.world w →
      Records a moves s₀ { s with world := w } entries

theorem Reachable.records {a : Auditor σ} {moves : σ → σ → Prop} {s₀ s : Session σ}
    (h : a.Reachable moves s₀ s) : ∃ entries, a.Records moves s₀ s entries := by
  induction h with
  | start => exact ⟨[], .start⟩
  | process e _ ih =>
    obtain ⟨entries, ih⟩ := ih
    exact ⟨_, ih.process e⟩
  | move _ hmove ih =>
    obtain ⟨entries, ih⟩ := ih
    exact ⟨entries, ih.move hmove⟩

/-! ## Statistics and records agree -/

/-- The statistics count what was recorded, and every slot holds the end of what was
recorded in it. -/
structure Tally (s : Session σ) (entries : List (Slot × Update)) : Prop where
  counted : s.statistics.updates = entries.length
  bounded : s.statistics.Bounded
  suffix : ∀ slot, s.history.load slot <:+ (entries.filter (·.1 = slot)).map (·.2)

/-- As long as averages are finite, statistics and records agree. -/
structure Tallied (a : Auditor σ) (moves : σ → σ → Prop) (w₀ : σ) (s : Session σ)
    (entries : List (Slot × Update)) : Prop where
  leads : a.environment.Leads moves w₀ s.world
  tally : s.statistics.updates < Statistics.capacity → Tally s entries

section Step

variable {a : Auditor σ} {moves : σ → σ → Prop} {w₀ : σ} {s t : Session σ} {r : Rule}
  {key : Text} {p : Payload} {entries : List (Slot × Update)}

/-- No slot holds more updates than were counted. -/
theorem Tally.length_le (h : Tally s entries) (slot : Slot) :
    (s.history.load slot).length ≤ s.statistics.updates := by
  have hsuffix := (h.suffix slot).length_le
  rw [List.length_map] at hsuffix
  rw [h.counted]
  exact Nat.le_trans hsuffix (List.length_filter_le _ _)

/-- An evaluation that returns has counted its update and recorded it. -/
theorem Tally.evaluates (hs : Tally s entries) {v : Verification}
    (h : a.Evaluates r key p s v t) :
    Tally t (entries ++ t.history.last ⟨key, r.id⟩) := by
  obtain ⟨u, hrecorded⟩ := h.recorded fun _ _ => False
  obtain ⟨clash, hcounted⟩ := h.counted
  have hprevious := hrecorded.previous_suffix
  have hlast : t.history.last ⟨key, r.id⟩ = [(⟨key, r.id⟩, u)] := by
    rw [History.last, hrecorded.load, if_pos rfl, List.getLast?_concat]
    rfl
  rw [hlast]
  refine ⟨?_, ?_, fun slot => ?_⟩
  · rw [hcounted.updates, hs.counted, List.length_append]
    rfl
  · exact hcounted.bounded hs.bounded (Nat.le_trans hprevious.length_le (hs.length_le _))
  · rw [hrecorded.load, List.filter_append, List.map_append]
    split
    · next hslot =>
      subst hslot
      rw [List.filter_cons_of_pos (by simp), List.filter_nil, List.map_singleton]
      obtain ⟨front, hfront⟩ := hprevious.trans (hs.suffix _)
      exact ⟨front, by rw [← List.append_assoc, hfront]⟩
    · next hslot =>
      rw [List.filter_cons_of_neg (by simpa using Ne.symm hslot), List.filter_nil, List.map_nil,
        List.append_nil]
      exact hs.suffix slot

/-- An evaluation that fails counts at most its own update. -/
theorem Fails.updates_le {f : Fault} (h : a.Fails r key p s f t) :
    s.statistics.updates ≤ t.statistics.updates ∧
      t.statistics.updates ≤ s.statistics.updates + 1 := by
  rcases h.statistics_eq_or_counted with hstatistics | ⟨clash, length, -, hcounted⟩
  · rw [hstatistics]
    exact ⟨Nat.le_refl _, Nat.le_succ _⟩
  · rw [hcounted.updates]
    exact ⟨Nat.le_succ _, Nat.le_refl _⟩

/-- With a steady clock and finite averages, an evaluation that fails has counted nothing. -/
theorem Fails.uncounted {f : Fault} (h : a.Fails r key p s f t)
    (hsteady : a.environment.Steady moves w₀) (hlead : a.environment.Leads moves w₀ s.world)
    (hs : Tally s entries) (hsize : t.statistics.updates < Statistics.capacity) :
    t.statistics = s.statistics := by
  cases h with
  | stopped _ statistics => exact statistics
  | emptied _ _ statistics => exact statistics
  | @overflowed clash length _ history bounded summary counted =>
    rw [counted.updates] at hsize
    have hcount := hs.bounded.count clash (Nat.le_trans bounded (hs.length_le _))
    obtain ⟨x, hx⟩ := hcount.summary_ok hsize
    cases summary.symm.trans hx
  | inverted cleared observed update history counted =>
    obtain ⟨w₀', w₁, o₁, u₁, hacquire, hattempt, -, hclear⟩ := cleared
    have hw := Act.Keeps.of_run (fun _ hw => .acquire _ hw) hacquire hlead
    have hw₁ := Rule.leads_observe.of_run hattempt.observed hw
    have hw₂ := Act.Keeps.of_run (fun _ hw => .clear _ hw) hclear hw₁
    have hle := Rule.before_le_after_of_observe hsteady hw₂ observed
    rw [Observation.update, Window.make_of_le hle] at update
    cases update

/-- What an evaluation records. -/
def recordedBy (slot : Slot) (t : Session σ) : Except Fault Verification → List (Slot × Update)
  | .ok _ => t.history.last slot
  | .error _ => []

/-- The step: one evaluation, whether it returns or fails. -/
theorem Tallied.evaluate (hs : a.Tallied moves w₀ s entries)
    (hsteady : a.environment.Steady moves w₀) (hr : r ∈ a.rules) (hp : r.kind.Accepts p)
    {result : Except Fault Verification} (h : (a.evaluate r key p).run s = (result, t)) :
    a.Tallied moves w₀ t (entries ++ recordedBy ⟨key, r.id⟩ t result) := by
  have hlead := leads_evaluate moves hr key hp s
  rw [h] at hlead
  refine ⟨hs.leads.trans hlead, fun hsize => ?_⟩
  cases result with
  | ok v =>
    have hevaluates := evaluates_of_run h
    obtain ⟨clash, hcounted⟩ := hevaluates.counted
    have hle := hcounted.updates
    exact (hs.tally (by omega)).evaluates hevaluates
  | error f =>
    have hfails := fails_of_run h
    have htally := hs.tally (Nat.lt_of_le_of_lt hfails.updates_le.1 hsize)
    have hstatistics := hfails.uncounted hsteady hs.leads htally hsize
    rw [recordedBy, List.append_nil]
    refine ⟨hstatistics ▸ htally.counted, hstatistics ▸ htally.bounded, fun slot => ?_⟩
    rcases hfails.history_eq with hhistory | ⟨-, hhistory⟩
    · rw [hhistory]
      exact htally.suffix slot
    · rw [hhistory, History.load_clear]
      split
      · exact List.nil_suffix
      · exact htally.suffix slot

theorem Tallied.of_core_eq (hs : a.Tallied moves w₀ s entries) (h : t.core = s.core) :
    a.Tallied moves w₀ t entries := by
  obtain ⟨hworld, hrest⟩ := Prod.mk.inj h
  obtain ⟨hhistory, hstatistics⟩ := Prod.mk.inj hrest
  refine ⟨hworld ▸ hs.leads, fun hsize => ?_⟩
  obtain ⟨hcounted, hbounded, hsuffix⟩ := hs.tally (hstatistics ▸ hsize)
  exact ⟨hstatistics ▸ hcounted, hstatistics ▸ hbounded, hhistory ▸ hsuffix⟩

/-- The rules of an event, up to the first one that fails. -/
theorem Tallied.judgeAll (key : Text) {pairs : List (Rule × Json)}
    (hs : a.Tallied moves w₀ s entries) (hsteady : a.environment.Steady moves w₀)
    (hpairs : ∀ x ∈ pairs, x.1 ∈ a.rules ∧ x.1.kind.Accepts (.raw x.2)) :
    a.Tallied moves w₀ ((a.judgeAll key pairs).run s).2 (entries ++ a.recordedOf key pairs s) := by
  induction pairs generalizing s entries with
  | nil =>
    rw [recordedOf, List.append_nil]
    exact hs
  | cons pair rest ih =>
    obtain ⟨r, raw⟩ := pair
    obtain ⟨⟨hr, hp⟩, hrest⟩ := List.forall_mem_cons.1 hpairs
    cases hevaluated : (a.evaluate r key (.raw raw)).run s with
    | mk result t =>
      have ht := hs.evaluate hsteady hr hp hevaluated
      rw [Auditor.judgeAll]
      cases result with
      | error f =>
        rw [Act.run_bind_error hevaluated]
        simp only [recordedOf, hevaluated]
        exact ht
      | ok v =>
        rw [Act.run_bind_ok hevaluated]
        cases hjudged : (judge v).run t with
        | mk judged u =>
          have hcore := run_judge_core v t
          rw [hjudged] at hcore
          have hu := ht.of_core_eq hcore
          cases judged with
          | error f =>
            rw [Act.run_bind_error hjudged]
            simp only [recordedOf, hevaluated, hjudged, List.append_nil]
            exact hu
          | ok line =>
            rw [Act.run_bind_ok hjudged, Act.run_bind_pure_snd]
            simp only [recordedOf, hevaluated, hjudged]
            rw [← List.append_assoc]
            exact ih hu hrest

/-- The step: one event, whatever comes of it. -/
theorem Tallied.process (hs : a.Tallied moves w₀ s entries)
    (hsteady : a.environment.Steady moves w₀) (e : Event) :
    a.Tallied moves w₀ ((a.process e).run s).2 (entries ++ a.recorded e s) := by
  unfold recorded
  cases hraws : a.prepare e with
  | error f =>
    rw [run_process_refused hraws]
    dsimp only
    rw [List.append_nil]
    exact hs
  | ok raws =>
    obtain ⟨-, haccepts⟩ := accepts_of_prepare hraws
    have hrules := Tallied.judgeAll e.key (s := { s with events := s.events + 1 })
      (hs.of_core_eq rfl) hsteady fun x hx => ⟨(List.of_mem_zip hx).1, haccepts x hx⟩
    exact hrules.of_core_eq (run_process_core hraws s)

/-- A run with a steady clock. -/
theorem Records.tallied {s₀ : Session σ} (hsteady : a.environment.Steady moves s₀.world)
    (hs : a.Records moves s₀ s entries) (h₀ : Tally s₀ []) :
    a.Tallied moves s₀.world s entries := by
  induction hs with
  | start => exact ⟨.start, fun _ => h₀⟩
  | process e _ ih => exact ih.process hsteady e
  | move _ hmove ih =>
    refine ⟨ih.leads.move hmove, fun hsize => ?_⟩
    obtain ⟨hcounted, hbounded, hsuffix⟩ := ih.tally hsize
    exact ⟨hcounted, hbounded, hsuffix⟩

end Step

/-! ## Where an event fails -/

/-- An accepted event comes to a rule, when the rules before it have been evaluated to their
end. -/
structure Reaches (a : Auditor σ) (e : Event) (s : Session σ) (before : List (Rule × Json))
    (r : Rule) (raw : Json) (after : List (Rule × Json)) (m : Session σ) : Prop where
  accepted : ∃ raws, a.prepare e = .ok raws ∧ a.rules.zip raws = before ++ (r, raw) :: after
  reached : ∃ lines,
    (a.judgeAll e.key before).run { s with events := s.events + 1 } = (.ok lines, m)

/-- An accepted event has failed in the evaluation of a rule, after the rules before it. -/
structure FailsAt (a : Auditor σ) (e : Event) (s : Session σ) (before : List (Rule × Json))
    (r : Rule) (raw : Json) (after : List (Rule × Json)) (m : Session σ) (f : Fault)
    (t : Session σ) : Prop where
  accepted : ∃ raws, a.prepare e = .ok raws ∧ a.rules.zip raws = before ++ (r, raw) :: after
  reached : ∃ lines,
    (a.judgeAll e.key before).run { s with events := s.events + 1 } = (.ok lines, m)
  failed : (a.evaluate r e.key (.raw raw)).run m = (.error f, t)

/-- What rules that are evaluated to their end have done. -/
structure Advanced (key : Text) (pairs : List (Rule × Json)) (s t : Session σ) : Prop where
  updates : t.statistics.updates = s.statistics.updates + pairs.length
  recorded : ∀ x ∈ pairs, ∃ u,
    (t.history.load ⟨key, x.1.id⟩).getLast? = some u ∧ u.payload = .raw x.2
  elsewhere : ∀ slot, (∀ x ∈ pairs, slot ≠ ⟨key, x.1.id⟩) →
    t.history.load slot = s.history.load slot

section Failing

variable {a : Auditor σ} {key : Text} {s t : Session σ} {f : Fault}

theorem run_judgeAll_append_error {before after : List (Rule × Json)} {lines : List String}
    {m : Session σ} (hbefore : (a.judgeAll key before).run s = (.ok lines, m))
    (hafter : (a.judgeAll key after).run m = (.error f, t)) :
    (a.judgeAll key (before ++ after)).run s = (.error f, t) := by
  induction before generalizing s lines with
  | nil =>
    obtain ⟨-, rfl⟩ := Act.run_pure_eq_ok hbefore
    exact hafter
  | cons pair rest ih =>
    obtain ⟨v, s₁, hevaluated, h⟩ := Act.run_bind_eq_ok hbefore
    obtain ⟨line, s₂, hjudged, h⟩ := Act.run_bind_eq_ok h
    obtain ⟨others, s₃, hrest, h⟩ := Act.run_bind_eq_ok h
    obtain ⟨-, rfl⟩ := Act.run_pure_eq_ok h
    rw [List.cons_append, judgeAll, Act.run_bind_ok hevaluated, Act.run_bind_ok hjudged]
    exact Act.run_bind_error (ih hrest)

/-- An event whose evaluation of a rule fails is not processed to its end. -/
theorem FailsAt.run_process {e : Event} {before after : List (Rule × Json)} {r : Rule} {raw : Json}
    {m : Session σ} (h : a.FailsAt e s before r raw after m f t) :
    (a.process e).run s = (.error f, t) := by
  obtain ⟨raws, hraws, hzip⟩ := h.accepted
  obtain ⟨lines, hreached⟩ := h.reached
  have hlifted : (Act.lift (a.prepare e)).run s = (.ok raws, s) := by rw [hraws, Act.run_lift]
  have hcounted : Session.countEvent.run s =
      (.ok (s.events + 1), { s with events := s.events + 1 }) := rfl
  have hrest : (a.judgeAll e.key ((r, raw) :: after)).run m = (.error f, t) :=
    Act.run_bind_error h.failed
  rw [Auditor.process, Act.run_bind_ok hlifted, Act.run_bind_ok hcounted, hzip]
  exact Act.run_bind_error (run_judgeAll_append_error hreached hrest)

/-- Rules of distinct names advance one after another. -/
theorem advanced_of_run_judgeAll {pairs : List (Rule × Json)} {lines : List String}
    (hnodup : (pairs.map (·.1.id)).Nodup)
    (h : (a.judgeAll key pairs).run s = (.ok lines, t)) : Advanced key pairs s t := by
  induction pairs generalizing s lines with
  | nil =>
    obtain ⟨-, rfl⟩ := Act.run_pure_eq_ok h
    exact ⟨rfl, fun _ hx => (nomatch hx), fun _ _ => rfl⟩
  | cons pair rest ih =>
    obtain ⟨r, raw⟩ := pair
    obtain ⟨hfresh, hrestNodup⟩ := List.nodup_cons.1 hnodup
    obtain ⟨v, s₁, hevaluated, h⟩ := Act.run_bind_eq_ok h
    obtain ⟨line, s₂, hjudged, h⟩ := Act.run_bind_eq_ok h
    obtain ⟨others, s₃, hrest, h⟩ := Act.run_bind_eq_ok h
    obtain ⟨-, rfl⟩ := Act.run_pure_eq_ok h
    have hevaluates := evaluates_of_run hevaluated
    obtain ⟨clash, hcounted⟩ := hevaluates.counted
    obtain ⟨u, hrecorded⟩ := hevaluates.recorded fun _ _ => False
    have hcore := run_judge_core v s₁
    rw [hjudged] at hcore
    obtain ⟨-, hcore⟩ := Prod.mk.inj hcore
    obtain ⟨hhistory, hstatistics⟩ := Prod.mk.inj hcore
    obtain ⟨hupdates, hlast, helsewhere⟩ := ih hrestNodup hrest
    -- The rules that follow have other names, so they leave the slot of the first rule alone.
    have hslot : s₃.history.load ⟨key, r.id⟩ = v.previous ++ [u] := by
      rw [helsewhere _ fun x hx hslot => hfresh ?_, hhistory, hrecorded.load, if_pos rfl]
      exact List.mem_map.2 ⟨x, hx, (congrArg Slot.name hslot).symm⟩
    refine ⟨?_, fun x hx => ?_, fun slot hne => ?_⟩
    · rw [hupdates, hstatistics, hcounted.updates, List.length_cons]
      omega
    · rcases List.mem_cons.1 hx with rfl | hx
      · exact ⟨u, by rw [hslot, List.getLast?_concat], hrecorded.payload⟩
      · exact hlast x hx
    · obtain ⟨hfirst, hothers⟩ := List.forall_mem_cons.1 hne
      rw [helsewhere slot hothers, hhistory, hrecorded.load, if_neg hfirst]

theorem run_judgeAll_eq_error {pairs : List (Rule × Json)}
    (h : (a.judgeAll key pairs).run s = (.error f, t)) :
    ∃ before r raw after lines m, pairs = before ++ (r, raw) :: after ∧
      (a.judgeAll key before).run s = (.ok lines, m) ∧
      ((a.evaluate r key (.raw raw)).run m = (.error f, t) ∨
        ∃ v u, (a.evaluate r key (.raw raw)).run m = (.ok v, u) ∧
          (judge v).run u = (.error f, t)) := by
  induction pairs generalizing s with
  | nil => cases h
  | cons pair rest ih =>
    obtain ⟨r, raw⟩ := pair
    rcases Act.run_bind_eq_error h with h | ⟨v, s₁, hevaluated, h⟩
    · exact ⟨[], r, raw, rest, [], s, rfl, rfl, .inl h⟩
    rcases Act.run_bind_eq_error h with h | ⟨line, s₂, hjudged, h⟩
    · exact ⟨[], r, raw, rest, [], s, rfl, rfl, .inr ⟨v, s₁, hevaluated, h⟩⟩
    rcases Act.run_bind_eq_error h with h | ⟨others, s₃, -, h⟩
    · obtain ⟨before, r', raw', after, lines, m, rfl, hreached, hfails⟩ := ih h
      refine ⟨(r, raw) :: before, r', raw', after, line.toList ++ lines, m, rfl, ?_, hfails⟩
      rw [judgeAll, Act.run_bind_ok hevaluated, Act.run_bind_ok hjudged, Act.run_bind_ok hreached]
      rfl
    · cases h

/-- An accepted event that fails has come to a rule whose evaluation or judgement fails. -/
theorem exists_reaches {e : Event} {raws : List Json} (hraws : a.prepare e = .ok raws)
    (h : (a.process e).run s = (.error f, t)) :
    ∃ before r raw after m, a.Reaches e s before r raw after m ∧
      ((a.evaluate r e.key (.raw raw)).run m = (.error f, t) ∨
        ∃ v u, (a.evaluate r e.key (.raw raw)).run m = (.ok v, u) ∧
          (judge v).run u = (.error f, t)) := by
  rcases Act.run_bind_eq_error h with h | ⟨raws', s₁, hlifted, h⟩
  · rw [hraws] at h
    cases h
  obtain ⟨hraws', rfl⟩ := Act.run_lift_eq_ok hlifted
  cases hraws.symm.trans hraws'
  rcases Act.run_bind_eq_error h with h | ⟨number, s₂, hcounted, h⟩
  · cases h
  obtain ⟨-, rfl⟩ := Prod.mk.inj hcounted
  rcases Act.run_bind_eq_error h with h | ⟨lines, s₃, -, h⟩
  · obtain ⟨before, r, raw, after, found, m, hzip, hreached, hfails⟩ := run_judgeAll_eq_error h
    exact ⟨before, r, raw, after, m, ⟨⟨raws, hraws, hzip⟩, ⟨found, hreached⟩⟩, hfails⟩
  · -- The record of an event can always be written.
    rcases Act.run_bind_eq_error h with h | ⟨⟨⟩, s₄, -, h⟩
    · cases (Session.run_report_error h).1
    · cases h

section Reaches

variable {e : Event} {before after : List (Rule × Json)} {r : Rule} {raw : Json} {m : Session σ}

namespace Reaches

theorem pairs (h : a.Reaches e s before r raw after m) :
    (∀ x ∈ before ++ (r, raw) :: after, x.1 ∈ a.rules ∧ x.1.kind.Accepts (.raw x.2)) ∧
      ((before ++ (r, raw) :: after).map (·.1.id)).Nodup ∧
      (before ++ (r, raw) :: after).length = a.rules.length := by
  obtain ⟨raws, hraws, hzip⟩ := h.accepted
  obtain ⟨-, haccepts⟩ := accepts_of_prepare hraws
  rw [← hzip]
  exact ⟨fun x hx => ⟨(List.of_mem_zip hx).1, haccepts x hx⟩, (pairs_of_prepare hraws).2⟩

theorem before_accepts (h : a.Reaches e s before r raw after m) :
    ∀ x ∈ before, x.1 ∈ a.rules ∧ x.1.kind.Accepts (.raw x.2) :=
  fun x hx => h.pairs.1 x (List.mem_append_left _ hx)

theorem accepts (h : a.Reaches e s before r raw after m) :
    r ∈ a.rules ∧ r.kind.Accepts (.raw raw) :=
  h.pairs.1 (r, raw) (List.mem_append_right _ List.mem_cons_self)

/-- The rules before have advanced. -/
theorem advanced (h : a.Reaches e s before r raw after m) : Advanced e.key before s m := by
  obtain ⟨lines, hreached⟩ := h.reached
  have hids := h.pairs.2.1
  rw [List.map_append] at hids
  obtain ⟨hupdates, hrecorded, helsewhere⟩ :=
    advanced_of_run_judgeAll (List.nodup_append.1 hids).1 hreached
  exact ⟨hupdates, hrecorded, helsewhere⟩

theorem updates_lt (h : a.Reaches e s before r raw after m) :
    m.statistics.updates < s.statistics.updates + a.rules.length := by
  have hupdates := h.advanced.updates
  have hlength := h.pairs.2.2
  rw [List.length_append, List.length_cons] at hlength
  omega

/-- What evaluations keep holds when the rule is reached. -/
theorem kept {P : σ → History → Prop} (hP : a.KeptByEvaluations P)
    (h : a.Reaches e s before r raw after m) (hs : P s.world s.history) :
    P m.world m.history := by
  obtain ⟨lines, hreached⟩ := h.reached
  have haccepts := h.before_accepts
  obtain ⟨-, -, hm⟩ := run_judgeAll_ok (P := P) (fun x hof _ ⟨_, hraw, hmem⟩ =>
    hP x hof (haccepts _ hmem).1 (hraw ▸ (haccepts _ hmem).2)) hreached hs
  exact hm

end Reaches

namespace FailsAt

theorem reaches (h : a.FailsAt e s before r raw after m f t) :
    a.Reaches e s before r raw after m := ⟨h.accepted, h.reached⟩

/-- The rule that fails has left all slots but its own alone. -/
theorem load_eq (h : a.FailsAt e s before r raw after m f t) {slot : Slot}
    (hslot : slot ≠ ⟨e.key, r.id⟩) : t.history.load slot = m.history.load slot := by
  rcases (fails_of_run h.failed).history_eq with hhistory | ⟨-, hhistory⟩
  · rw [hhistory]
  · rw [hhistory, History.load_clear, if_neg hslot]

/-- What an event that fails has done to the slots. -/
theorem slots (h : a.FailsAt e s before r raw after m f t) :
    (∀ x ∈ before, ∃ u,
      (t.history.load ⟨e.key, x.1.id⟩).getLast? = some u ∧ u.payload = .raw x.2) ∧
    (t.history.load ⟨e.key, r.id⟩ = s.history.load ⟨e.key, r.id⟩ ∨
      t.history.load ⟨e.key, r.id⟩ = [] ∧ ∃ w, a.Clears r e.key (.raw raw) m w) ∧
    (∀ x ∈ after, t.history.load ⟨e.key, x.1.id⟩ = s.history.load ⟨e.key, x.1.id⟩) ∧
    ∀ slot, slot.key ≠ e.key → t.history.load slot = s.history.load slot := by
  have hids := h.reaches.pairs.2.1
  rw [List.map_append] at hids
  obtain ⟨-, hrest, hapart⟩ := List.nodup_append.1 hids
  obtain ⟨hfresh, -⟩ := List.nodup_cons.1 hrest
  have hbefore : ∀ x ∈ before, ∀ y ∈ (r, raw) :: after,
      (⟨e.key, y.1.id⟩ : Slot) ≠ ⟨e.key, x.1.id⟩ := fun x hx y hy hslot =>
    hapart _ (List.mem_map_of_mem hx) _ (List.mem_map_of_mem hy) (congrArg Slot.name hslot).symm
  refine ⟨fun x hx => ?_, ?_, fun x hx => ?_, fun slot hslot => ?_⟩
  · rw [h.load_eq (hbefore x hx (r, raw) List.mem_cons_self).symm]
    exact h.reaches.advanced.recorded x hx
  · rw [← h.reaches.advanced.elsewhere _ fun x hx => hbefore x hx (r, raw) List.mem_cons_self]
    rcases (fails_of_run h.failed).history_eq with hhistory | ⟨hcleared, hhistory⟩
    · exact .inl (congrArg (History.load · _) hhistory)
    · refine .inr ⟨?_, hcleared⟩
      rw [hhistory, History.load_clear, if_pos rfl]
  · have hother : (⟨e.key, x.1.id⟩ : Slot) ≠ ⟨e.key, r.id⟩ := fun hslot =>
      hfresh (List.mem_map.2 ⟨x, hx, congrArg Slot.name hslot⟩)
    rw [h.load_eq hother]
    exact h.reaches.advanced.elsewhere _ fun y hy => hbefore y hy x (List.mem_cons_of_mem _ hx)
  · have hother : ∀ name, slot ≠ ⟨e.key, name⟩ := fun _ h => hslot (congrArg Slot.key h)
    rw [h.load_eq (hother _)]
    exact h.reaches.advanced.elsewhere _ fun _ _ => hother _

end FailsAt

end Reaches

end Failing

/-- A failure leaves the books in order. Against any host and with a steady clock, the
statistics count exactly the updates that were ever recorded, and every slot holds the end of
what was recorded in it. If the evaluation of a rule fails, the rules before it have each
recorded the payload of the event and counted it once, and nothing else has been counted. The
slot of the rule that failed is as it was before the event, or it is empty and then the host
has cleared it during the evaluation. The slots of the rules that follow and all slots of
other keys are as they were. -/
theorem failed_evaluation_bookkeeping {config : Config} {a : Auditor σ} {moves : σ → σ → Prop}
    {w : σ} {log : Log} {s : Session σ} {entries : List (Slot × Update)}
    (hs : a.Records moves (.start w log .empty config) s entries)
    (hsteady : a.environment.Steady moves w)
    (hsize : s.statistics.updates + a.rules.length < Statistics.capacity) :
    s.statistics.updates = entries.length ∧
    (∀ slot, s.history.load slot <:+ (entries.filter (·.1 = slot)).map (·.2)) ∧
    ∀ e before r raw after m f t, a.FailsAt e s before r raw after m f t →
      (∀ x ∈ before, ∃ u,
        (t.history.load ⟨e.key, x.1.id⟩).getLast? = some u ∧ u.payload = .raw x.2) ∧
      m.statistics.updates = s.statistics.updates + before.length ∧
      t.statistics = m.statistics ∧
      (t.history.load ⟨e.key, r.id⟩ = s.history.load ⟨e.key, r.id⟩ ∨
        t.history.load ⟨e.key, r.id⟩ = [] ∧ ∃ w', a.Clears r e.key (.raw raw) m w') ∧
      (∀ x ∈ after, t.history.load ⟨e.key, x.1.id⟩ = s.history.load ⟨e.key, x.1.id⟩) ∧
      ∀ slot, slot.key ≠ e.key → t.history.load slot = s.history.load slot := by
  have hstart : Tally (Session.start w log .empty config) [] :=
    ⟨rfl, Statistics.bounded_start _ _, fun slot => List.nil_suffix⟩
  have htallied := hs.tallied hsteady hstart
  have htally := htallied.tally (by omega)
  refine ⟨htally.counted, htally.suffix, fun e before r raw after m f t h => ?_⟩
  obtain ⟨lines, hreached⟩ := h.reached
  obtain ⟨hrecorded, hslot, hafter, hkeys⟩ := h.slots
  have hupdates := h.reaches.advanced.updates
  -- What the rules before have left is tallied, so the failing evaluation counts nothing.
  have hm := Tallied.judgeAll e.key (s := { s with events := s.events + 1 })
    (htallied.of_core_eq rfl) hsteady h.reaches.before_accepts
  rw [hreached] at hm
  have hmsize : m.statistics.updates + 1 < Statistics.capacity := by
    have hlt := h.reaches.updates_lt
    omega
  have hfails := fails_of_run h.failed
  have hstatistics : t.statistics = m.statistics := hfails.uncounted hsteady hm.leads
    (hm.tally (Nat.lt_of_succ_lt hmsize)) (Nat.lt_of_le_of_lt hfails.updates_le.2 hmsize)
  exact ⟨hrecorded, hupdates, hstatistics, hslot, hafter, hkeys⟩

/-- A store that refuses to open values fails every event after its list was updated. -/
theorem failed_evaluation_bookkeeping_of_two_events :
    let config : Config := ⟨.ofInt 10 (by decide), .ofInt 1000 (by decide)⟩
    let list : Rule := ⟨.list, .whole (.ofInt 10 (by decide))⟩
    let value : Rule := ⟨.value, .whole (.ofInt 10 (by decide))⟩
    let e : Event := ⟨"k", .obj [("list", .int 3), ("value", .int 4)], by decide⟩
    let readings : Nat → Int := fun n => 100 * (n / 5 : Nat)
    let env := Behaviour.unavailable.onReadings readings
    let moves : Nat × Tables → Nat × Tables → Prop := fun _ _ => False
    let start : Session (Nat × Tables) := .start (0, .empty) .lenient .empty config
    let a : Auditor (Nat × Tables) := ⟨[list, value], ⟨10, by decide⟩, env, by decide⟩
    let s := ((a.process e).run start).2
    a.Records moves start s (a.recorded e start) ∧ a.environment.Steady moves (0, .empty) ∧
      s.statistics.updates + a.rules.length < Statistics.capacity ∧
      s.statistics.updates = (a.recorded e start).length ∧
      ∃ m f t, a.FailsAt e s [(list, .int 3)] value (.int 4) [] m f t ∧
        t.statistics.updates = s.statistics.updates + 1 ∧
        ∃ u, (t.history.load ⟨"k", list.id⟩).getLast? = some u ∧ u.payload = .raw (.int 3) := by
  intro config list value e readings env moves start a s
  have hmono : Monotone readings := fun i j hij => by
    have hdiv := Nat.div_le_div_right (c := 5) hij
    show 100 * ((i / 5 : Nat) : Int) ≤ 100 * ((j / 5 : Nat) : Int)
    omega
  have hsteady : a.environment.Steady moves (0, .empty) :=
    Behaviour.steady_onReadings hmono (fun _ _ h => h.elim) _
  have hs : a.Records moves start s (a.recorded e start) := Records.start.process e
  have hupdates : s.statistics.updates = 1 := by decide +kernel
  have hsize : s.statistics.updates + a.rules.length < Statistics.capacity := by
    rw [hupdates]
    exact Statistics.lt_capacity (k := 2) (by decide) (by decide)
  have hreached : (match (a.judgeAll "k" [(list, .int 3)]).run { s with events := s.events + 1 } with
    | (.ok _, m) => match (a.evaluate value "k" (.raw (.int 4))).run m with
      | (.ok _, _) => false
      | (.error _, _) => true
    | (.error _, _) => false) = true := by decide +kernel
  cases hbefore : (a.judgeAll "k" [(list, .int 3)]).run { s with events := s.events + 1 } with
  | mk lines m =>
    rw [hbefore] at hreached
    cases lines with
    | error f => cases hreached
    | ok lines =>
      dsimp only at hreached
      cases hfailed : (a.evaluate value "k" (.raw (.int 4))).run m with
      | mk result t =>
        rw [hfailed] at hreached
        cases result with
        | ok v => cases hreached
        | error f =>
          have h : a.FailsAt e s [(list, .int 3)] value (.int 4) [] m f t :=
            ⟨⟨[.int 3, .int 4], rfl, rfl⟩, ⟨lines, hbefore⟩, hfailed⟩
          obtain ⟨hlength, -, hfails⟩ := failed_evaluation_bookkeeping hs hsteady hsize
          obtain ⟨hrecorded, hcounted, hstatistics, -⟩ := hfails _ _ _ _ _ _ _ _ h
          refine ⟨hs, hsteady, hsize, hlength, m, f, t, h, ?_, hrecorded _ List.mem_cons_self⟩
          rw [hstatistics, hcounted]
          rfl

end Auditor
end ExpiryAudit
