import ExpiryAudit.Proofs.Averages
import ExpiryAudit.Proofs.Regions
import ExpiryAudit.Proofs.SteadyClock

/-!
# Audits that agree on a region

An evaluation looks at one slot of the host and of the history. Two audits that agree on a
region of this slot, with clocks in one state, come to the same result or fault and agree on
the region afterwards. An audit changes nothing in other regions.
-/
namespace ExpiryAudit

/-! ## A cycle -/

namespace Rule

variable {σ : Type} {R : σ → σ → Prop} {r : Rule} {env : Environment σ} {h : Handle} {p : Payload}

theorem respects_read (hread : Act.Respects R R (env.host.read h)) :
    Act.Respects R R (r.read env.host h) :=
  Act.Respects.bind hread (fun _ => Act.Respects.lift _) fun _ _ hst => hst

theorem respects_apply (hread : Act.Respects R R (env.host.read h))
    (hwrite : ∀ c, Act.Respects R R (env.host.write h c)) :
    Act.Respects R R (r.apply env.host h p) := by
  have hlift : ∀ {α : Type} {f : α → Act σ Unit} (x : Except Fault α),
      (∀ x, Act.Respects R R (f x)) → Act.Respects R R (Act.lift x >>= f) := fun x hf =>
    Act.Respects.bind (Act.Respects.lift x) hf fun _ _ hst => hst
  unfold apply
  cases r.kind with
  | value => exact hlift _ fun _ => hwrite _
  | list => exact hlift _ fun _ => hwrite _
  | map => exact hlift _ fun _ => hwrite _
  | reducing =>
    refine hlift _ fun _ => Act.Respects.bind hread (fun _ => ?_) fun _ _ hst => hst
    exact hlift _ fun _ => hwrite _

theorem respects_observe (hnow : Act.Respects R R env.now)
    (hread : Act.Respects R R (env.host.read h))
    (hwrite : ∀ c, Act.Respects R R (env.host.write h c)) :
    Act.Respects R R (r.observe env h p) := by
  refine Act.Respects.bind hnow (fun _ => ?_) fun _ _ hst => hst
  refine Act.Respects.bind (respects_read hread) (fun _ => ?_) fun _ _ hst => hst
  refine Act.Respects.bind (respects_apply hread hwrite) (fun _ => ?_) fun _ _ hst => hst
  refine Act.Respects.bind (respects_read hread) (fun _ => ?_) fun _ _ hst => hst
  exact Act.Respects.bind hnow (fun _ => Act.Respects.pure _) fun _ _ hst => hst

end Rule

/-! ## Sessions -/

namespace Session

variable {κ : Type}

/-- Hosts and histories hold the same in a region, and logs take the same records. -/
structure AgreeOn (P : Slot → Prop) (s t : Session (κ × Tables)) : Prop where
  tables : s.world.2.AgreeOn P t.world.2
  history : s.history.AgreeOn P t.history
  isStrict : s.log.isStrict = t.log.isStrict

theorem AgreeOn.refl (P : Slot → Prop) (s : Session (κ × Tables)) : s.AgreeOn P s :=
  ⟨Tables.AgreeOn.refl _, fun _ _ => rfl, rfl⟩

/-- What agrees with the same agrees. -/
theorem AgreeOn.of_common {P : Slot → Prop} {s t u : Session (κ × Tables)} (hs : s.AgreeOn P u)
    (ht : t.AgreeOn P u) : s.AgreeOn P t where
  tables := hs.tables.of_common ht.tables
  history := fun slot hslot => (hs.history slot hslot).trans (ht.history slot hslot).symm
  isStrict := hs.isStrict.trans ht.isStrict.symm

/-- Hosts and histories are equal if every slot is in some region on which they agree. -/
theorem eq_of_agreeOn {s t : Session (κ × Tables)}
    (h : ∀ slot, ∃ P : Slot → Prop, P slot ∧ s.AgreeOn P t) :
    s.history = t.history ∧ s.world.2 = t.world.2 := by
  refine ⟨History.ext_load fun slot => ?_, Tables.eq_of_agreeOn fun slot => ?_⟩
  · obtain ⟨P, hslot, hst⟩ := h slot
    exact hst.history slot hslot
  · obtain ⟨P, hslot, hst⟩ := h slot
    exact ⟨P, hslot, hst.tables⟩

/-- Sessions that agree on a region, with clocks in one state, and with histories and
statistics that both have a property. -/
structure Linked (P : Slot → Prop) (S : History → Statistics → Prop)
    (s t : Session (κ × Tables)) : Prop extends s.AgreeOn P t where
  clock : s.world.1 = t.world.1
  left : S s.history s.statistics
  right : S t.history t.statistics

variable {P : Slot → Prop} {S S' : History → Statistics → Prop}

theorem Linked.mono (hS : ∀ h x, S h x → S' h x) {s t : Session (κ × Tables)}
    (hst : s.Linked P S t) : s.Linked P S' t :=
  ⟨hst.toAgreeOn, hst.clock, hS _ _ hst.left, hS _ _ hst.right⟩

theorem respects_inWorld {α : Type} {act : Act (κ × Tables) α}
    (hact : Act.Respects (Behaviour.Alike P) (Behaviour.Alike P) act) :
    Act.Respects (Linked P S) (Linked P S) (inWorld act) := by
  intro s t hst
  obtain ⟨hresult, hclock, htables⟩ := hact s.world t.world ⟨hst.clock, hst.tables⟩
  exact ⟨hresult, ⟨htables, hst.history, hst.isStrict⟩, hclock, hst.left, hst.right⟩

theorem respects_report (entry : LogEntry) :
    Act.Respects (Linked (κ := κ) P S) (Linked P S) (report entry) := by
  intro s t hst
  have hresult : ((Log.add entry).run s.log).1 = ((Log.add entry).run t.log).1 := by
    simp only [Log.add, Act.run, hst.isStrict]
    split
    · rfl
    · split <;> rfl
  have hstrict : ((Log.add entry).run s.log).2.isStrict = ((Log.add entry).run t.log).2.isStrict := by
    rw [Log.run_add_isStrict, Log.run_add_isStrict, hst.isStrict]
  exact ⟨hresult, ⟨hst.tables, hst.history, hstrict⟩, hst.clock, hst.left, hst.right⟩

theorem respects_reportAny (entry : Option LogEntry) :
    Act.Respects (Linked (κ := κ) P S) (Linked P S) (reportAny entry) := by
  cases entry with
  | none => exact Act.Respects.pure ()
  | some entry => exact respects_report entry

/-- The updates that are loaded are known. -/
theorem respects_loadHistory {α : Type} {Q : Session (κ × Tables) → Session (κ × Tables) → Prop}
    {slot : Slot} {previous : List Update} {f : List Update → Act (Session (κ × Tables)) α}
    (hS : ∀ h x, S h x → h.load slot = previous)
    (hf : Act.Respects (Linked P S) Q (f previous)) :
    Act.Respects (Linked P S) Q (loadHistory slot >>= f) := by
  intro s t hst
  have hload : ∀ s : Session (κ × Tables), S s.history s.statistics →
      (loadHistory slot).run s = (.ok previous, s) := fun s hs => by
    rw [← hS _ _ hs]
    rfl
  rw [Act.run_bind_ok (hload s hst.left), Act.run_bind_ok (hload t hst.right)]
  exact hf s t hst

theorem respects_clearHistory (hS : ∀ h slot x, S h x → S (h.clear slot) x) (slot : Slot) :
    Act.Respects (Linked (κ := κ) P S) (Linked P S) (clearHistory slot) := fun _ _ hst =>
  ⟨rfl, ⟨hst.tables, hst.history.clear slot, hst.isStrict⟩, hst.clock, hS _ _ _ hst.left,
    hS _ _ _ hst.right⟩

end Session

/-- There is room for one more update that is judged against some others. -/
structure Statistics.Takes (length : Nat) (x : Statistics) : Prop where
  bounded : x.Bounded
  length_le : length ≤ x.updates
  room : x.updates + 1 < capacity

/-- There is room for a number of updates, whichever slot they are judged against. -/
structure Statistics.Spare (n : Nat) (h : History) (x : Statistics) : Prop where
  bounded : x.Bounded
  length_le : ∀ slot, (h.load slot).length ≤ x.updates
  room : x.updates + n < capacity

theorem Statistics.Spare.mono {n m : Nat} {h : History} {x : Statistics} (hx : Spare n h x)
    (hle : m ≤ n) : Spare m h x :=
  ⟨hx.bounded, hx.length_le, Nat.lt_of_le_of_lt (Nat.add_le_add_left hle _) hx.room⟩

namespace Session

variable {κ : Type} {P : Slot → Prop}

/-- With room for it an update is counted. -/
theorem respects_count (clash : Bool) {length n : Nat} (hlength : length ≤ n) :
    Act.Respects (Linked (κ := κ) P fun _ x => x.Takes n) (Linked P fun _ _ => True)
      (count clash length) := by
  intro s t hst
  have hcounts : ∀ s : Session (κ × Tables), s.statistics.Takes n →
      ∃ s', (count clash length).run s = (.ok (), s') ∧ s'.world = s.world ∧
        s'.history = s.history ∧ s'.log.isStrict = s.log.isStrict := by
    intro s hs
    obtain ⟨s', hrun⟩ := run_count_bounded clash hs.bounded
      (Nat.le_trans hlength hs.length_le) hs.room
    obtain ⟨-, hworld, hhistory, -, -⟩ := run_count_ok hrun
    have hstrict : Act.Keeps (fun t : Session (κ × Tables) => t.log.isStrict = s.log.isStrict)
        (count clash length) :=
      count_keeps (lasting_isStrict _).report (fun _ _ hs => hs) clash length
    exact ⟨s', hrun, hworld, hhistory, hstrict.of_run hrun rfl⟩
  obtain ⟨s', hs, hworld, hhistory, hstrict⟩ := hcounts s hst.left
  obtain ⟨t', ht, hworld', hhistory', hstrict'⟩ := hcounts t hst.right
  rw [hs, ht]
  refine ⟨rfl, ⟨?_, ?_, ?_⟩, ?_, trivial, trivial⟩
  · rw [hworld, hworld']
    exact hst.tables
  · rw [hhistory, hhistory']
    exact hst.history
  · rw [hstrict, hstrict']
    exact hst.isStrict
  · rw [hworld, hworld']
    exact hst.clock

end Session

namespace Auditor

variable {κ : Type} {P : Slot → Prop} {b : Behaviour} {hostClock clock : Act κ Int}
  {a : Auditor (κ × Tables)} {r : Rule} {key : Text} {p : Payload}

theorem respects_record (hP : P ⟨key, r.id⟩) (clash : Bool) (previous : List Update)
    (o : Observation) {n : Nat} (hlength : previous.length ≤ n) :
    Act.Respects (Session.Linked (κ := κ) P fun _ x => x.Takes n)
      (Session.Linked P fun _ _ => True) (record r key clash previous o) := by
  refine Act.Respects.bind (Session.respects_count clash hlength) (fun _ => ?_) fun _ _ hst => hst
  refine Act.Respects.bind (Act.Respects.lift _) (fun u => ?_) fun _ _ hst => hst
  refine Act.Respects.bind ?_ (fun _ => Act.Respects.pure _) fun _ _ hst => hst
  exact fun s t hst => ⟨rfl, ⟨hst.tables, hst.history.append hP u, hst.isStrict⟩, hst.clock,
    trivial, trivial⟩

variable (ha : a.environment = b.onClocks hostClock clock)

include ha

theorem respects_observe {S : History → Statistics → Prop} (hP : P ⟨key, r.id⟩) :
    Act.Respects (Session.Linked P S) (Session.Linked P S)
      (Session.inWorld (r.observe a.environment (r.handle key) p)) := by
  rw [ha]
  exact Session.respects_inWorld (Rule.respects_observe Behaviour.respects_clock
    (Behaviour.respects_read hP) (Behaviour.respects_write hP))

theorem respects_retry {n : Nat} (hP : P ⟨key, r.id⟩) :
    Act.Respects (Session.Linked P fun _ x => x.Takes n) (Session.Linked P fun _ x => x.Takes n)
      (a.retry r key p) := by
  have hclear : Act.Respects (Session.Linked P fun _ x => x.Takes n)
      (Session.Linked P fun _ x => x.Takes n)
      (Session.inWorld (a.environment.host.clear (r.handle key))) := by
    rw [ha]
    exact Session.respects_inWorld Behaviour.respects_clear
  refine Act.Respects.bind hclear (fun _ => ?_) fun _ _ hst => hst
  refine Act.Respects.bind (Session.respects_clearHistory (fun _ _ _ hx => hx) _) (fun _ => ?_)
    fun _ _ hst => hst
  refine Act.Respects.bind (respects_observe ha hP) (fun o => ?_) fun _ _ hst => hst
  exact Act.Respects.bind (Session.respects_report _) (fun _ => Act.Respects.pure _)
    fun _ _ hst => hst

/-- An evaluation of known updates before it. -/
theorem respects_evaluate_loaded (hP : P ⟨key, r.id⟩) (previous : List Update) :
    Act.Respects
      (Session.Linked P fun h x => h.load ⟨key, r.id⟩ = previous ∧ x.Takes previous.length)
      (Session.Linked P fun _ _ => True) (a.evaluate r key p) := by
  have hany : ∀ s t : Session (κ × Tables), s.Linked P (fun _ x => x.Takes previous.length) t →
      s.Linked P (fun _ _ => True) t := fun _ _ hst => hst.mono fun _ _ _ => trivial
  have hacquire : Act.Respects
      (Session.Linked P fun h x => h.load ⟨key, r.id⟩ = previous ∧ x.Takes previous.length)
      (Session.Linked P fun h x => h.load ⟨key, r.id⟩ = previous ∧ x.Takes previous.length)
      (Session.inWorld (a.environment.host.acquire (r.handle key))) := by
    rw [ha]
    exact Session.respects_inWorld Behaviour.respects_acquire
  refine Act.Respects.bind hacquire (fun _ => ?_) fun _ _ hst => hst.mono fun _ _ _ => trivial
  refine Session.respects_loadHistory (fun _ _ hx => hx.1) ?_
  refine Act.Respects.bind (S := Session.Linked P fun _ x => x.Takes previous.length)
    (fun s t hst => ?_) (fun first => ?_) hany
  · exact respects_observe ha hP s t (hst.mono fun _ _ hx => hx.2)
  refine Act.Respects.bind (Act.Respects.lift _) (fun attempt => ?_) hany
  refine Act.Respects.bind (Session.respects_reportAny _) (fun _ => ?_) hany
  dsimp only
  split
  · exact Act.Respects.bind (respects_retry ha hP)
      (fun o => respects_record hP _ _ _ (Nat.zero_le _)) hany
  · exact respects_record hP _ _ _ (Nat.le_refl _)

/-- With room for one more update, an evaluation depends on a region of its slot only. -/
theorem respects_evaluate (hP : P ⟨key, r.id⟩) :
    Act.Respects (Session.Linked P (Statistics.Spare 1)) (Session.Linked P fun _ _ => True)
      (a.evaluate r key p) := by
  intro s t hst
  have hload := hst.history _ hP
  refine respects_evaluate_loaded ha hP (s.history.load ⟨key, r.id⟩) s t
    ⟨hst.toAgreeOn, hst.clock, ⟨rfl, ?_⟩, hload.symm, ?_⟩
  · exact ⟨hst.left.bounded, hst.left.length_le _, hst.left.room⟩
  · refine ⟨hst.right.bounded, ?_, hst.right.room⟩
    rw [hload]
    exact hst.right.length_le _

omit ha in
/-- An evaluation uses up room for one update, whatever comes of it. -/
theorem spare_evaluate {n : Nat} {s t : Session (κ × Tables)} {result : Except Fault Verification}
    (hs : Statistics.Spare (n + 1) s.history s.statistics)
    (hrun : (a.evaluate r key p).run s = (result, t)) :
    Statistics.Spare n t.history t.statistics := by
  obtain ⟨hbounded, hlengths, hroom⟩ := hs
  cases result with
  | ok v =>
    have hevaluates := evaluates_of_run hrun
    obtain ⟨clash, hcounted⟩ := hevaluates.counted
    obtain ⟨u, hrecorded⟩ := hevaluates.recorded fun _ _ => False
    have hprevious := Nat.le_trans hrecorded.previous_suffix.length_le (hlengths ⟨key, r.id⟩)
    have hupdates := hcounted.updates
    refine ⟨hcounted.bounded hbounded hprevious, fun slot => ?_, by omega⟩
    rw [hrecorded.load, hupdates]
    split
    · rw [List.length_append, List.length_singleton]
      exact Nat.succ_le_succ hprevious
    · exact Nat.le_succ_of_le (hlengths slot)
  | error f =>
    have hfails := fails_of_run hrun
    have hlength : ∀ slot, (t.history.load slot).length ≤ s.statistics.updates := fun slot => by
      rcases hfails.history_eq with hhistory | ⟨-, hhistory⟩
      · rw [hhistory]
        exact hlengths slot
      · rw [hhistory, History.load_clear]
        split
        · exact Nat.zero_le _
        · exact hlengths slot
    rcases hfails.statistics_eq_or_counted with hstatistics | ⟨clash, length, hle, hcounted⟩
    · rw [hstatistics]
      exact ⟨hbounded, hlength, by omega⟩
    · have hupdates := hcounted.updates
      refine ⟨hcounted.bounded hbounded (Nat.le_trans hle (hlengths _)), fun slot => ?_, by omega⟩
      rw [hupdates]
      exact Nat.le_succ_of_le (hlength slot)

/-- The step: one evaluation. -/
theorem respects_evaluate_spare {n : Nat} (hP : P ⟨key, r.id⟩) :
    Act.Respects (Session.Linked P (Statistics.Spare (n + 1)))
      (Session.Linked P (Statistics.Spare n)) (a.evaluate r key p) := by
  intro s t hst
  obtain ⟨hresult, hagree, hclock, -, -⟩ := respects_evaluate (p := p) ha hP s t
    (hst.mono fun _ _ hx => hx.mono (Nat.le_add_left 1 n))
  exact ⟨hresult, hagree, hclock, spare_evaluate hst.left rfl, spare_evaluate hst.right rfl⟩

omit ha in
theorem respects_judge {S : History → Statistics → Prop} (v : Verification) :
    Act.Respects (Session.Linked (κ := κ) P S) (Session.Linked P S) (judge v) := by
  refine Act.Respects.bind (Act.Respects.lift _) (fun holds => ?_) fun _ _ hst => hst
  cases holds with
  | true => exact Act.Respects.pure _
  | false =>
    have hfailure : Act.Respects (Session.Linked (κ := κ) P S) (Session.Linked P S)
        Session.countFailure := fun s t hst =>
      ⟨rfl, ⟨hst.tables, hst.history, hst.isStrict⟩, hst.clock, hst.left, hst.right⟩
    refine Act.Respects.bind hfailure (fun _ => ?_) fun _ _ hst => hst
    refine Act.Respects.bind (Session.respects_report _) (fun _ => ?_) fun _ _ hst => hst
    exact Act.Respects.bind (Act.Respects.lift _) (fun _ => Act.Respects.pure _) fun _ _ hst => hst

/-- The rules of an event, if the region has all their slots. -/
theorem respects_judgeAll {pairs : List (Rule × Json)} {n : Nat}
    (hpairs : ∀ x ∈ pairs, P ⟨key, x.1.id⟩) :
    Act.Respects (Session.Linked P (Statistics.Spare (n + pairs.length)))
      (Session.Linked P (Statistics.Spare n)) (a.judgeAll key pairs) := by
  induction pairs with
  | nil => exact Act.Respects.pure []
  | cons pair rest ih =>
    obtain ⟨r, raw⟩ := pair
    obtain ⟨hfirst, hrest⟩ := List.forall_mem_cons.1 hpairs
    have hfewer : ∀ s t : Session (κ × Tables),
        s.Linked P (Statistics.Spare (n + rest.length)) t → s.Linked P (Statistics.Spare n) t :=
      fun _ _ hst => hst.mono fun _ _ hx => hx.mono (Nat.le_add_right n _)
    refine Act.Respects.bind (respects_evaluate_spare ha hfirst) (fun v => ?_) hfewer
    refine Act.Respects.bind (respects_judge v) (fun line => ?_) hfewer
    exact Act.Respects.bind (ih hrest) (fun _ => Act.Respects.pure _) fun _ _ hst => hst

/-- An event, if the region has all slots of its rules. -/
theorem respects_process {e : Event} {n : Nat} (hP : ∀ r ∈ a.rules, P ⟨e.key, r.id⟩) :
    Act.Respects (Session.Linked P (Statistics.Spare (n + a.rules.length)))
      (Session.Linked P (Statistics.Spare n)) (a.process e) := by
  intro s t hst
  cases hraws : a.prepare e with
  | error f =>
    rw [run_process_refused hraws, run_process_refused hraws]
    exact ⟨rfl, hst.mono fun _ _ hx => hx.mono (Nat.le_add_right n _)⟩
  | ok raws =>
    obtain ⟨-, -, hlength⟩ := pairs_of_prepare hraws
    have hpairs : ∀ x ∈ a.rules.zip raws, P ⟨e.key, x.1.id⟩ := fun x hx =>
      hP x.1 (List.of_mem_zip hx).1
    have hrules := respects_judgeAll (n := n) ha hpairs
    rw [hlength] at hrules
    cases hs : (a.judgeAll e.key (a.rules.zip raws)).run { s with events := s.events + 1 } with
    | mk result s' =>
      cases ht : (a.judgeAll e.key (a.rules.zip raws)).run { t with events := t.events + 1 } with
      | mk result' t' =>
        obtain ⟨hresult, hst'⟩ := hrules.of_run hs ht
          ⟨⟨hst.tables, hst.history, hst.isStrict⟩, hst.clock, hst.left, hst.right⟩
        obtain ⟨log, hlog, hrun⟩ := run_process_accepted hraws hs
        obtain ⟨log', hlog', hrun'⟩ := run_process_accepted hraws ht
        rw [hrun, hrun']
        exact ⟨hresult, ⟨hst'.tables, hst'.history, hlog.trans (hst'.isStrict.trans hlog'.symm)⟩,
          hst'.clock, hst'.left, hst'.right⟩

/-- An event uses up room for one update of every rule, whatever comes of it. -/
theorem spare_process {e : Event} {n : Nat} {s : Session (κ × Tables)}
    (hs : Statistics.Spare (n + a.rules.length) s.history s.statistics) :
    Statistics.Spare n ((a.process e).run s).2.history ((a.process e).run s).2.statistics :=
  (respects_process (P := fun _ => True) ha (fun _ _ => trivial) s s
    ⟨.refl _ s, rfl, hs, hs⟩).2.left

/-! ## Other regions -/

omit ha in
theorem lasting_agreeOn (t : Session (κ × Tables)) :
    Session.Lasting fun s : Session (κ × Tables) => s.AgreeOn P t where
  report := fun entry _ hs =>
    ⟨hs.tables, hs.history, (Log.run_add_isStrict entry _).trans hs.isStrict⟩
  events := fun _ _ hs => ⟨hs.tables, hs.history, hs.isStrict⟩
  failures := fun _ _ hs => ⟨hs.tables, hs.history, hs.isStrict⟩

/-- An evaluation changes nothing in a region without its slot. -/
theorem evaluate_keeps_agreeOn (hP : ¬P ⟨key, r.id⟩) (t : Session (κ × Tables)) :
    Act.Keeps (fun s : Session (κ × Tables) => s.AgreeOn P t) (a.evaluate r key p) := by
  have hacquire : Act.Keeps (Behaviour.OfTables fun u => u.AgreeOn P t.world.2)
      (a.environment.host.acquire (r.handle key)) := by
    rw [ha]
    exact Behaviour.keeps_acquire
  have hobserve : Act.Keeps (Behaviour.OfTables fun u => u.AgreeOn P t.world.2)
      (r.observe a.environment (r.handle key) p) := by
    rw [ha]
    exact Behaviour.observe_keeps_agreeOn hP t.world.2
  exact PartsKeep.evaluate
    { acquire := fun s hs => ⟨hacquire s.world hs.tables, hs.history, hs.isStrict⟩
      clear := by
        rw [ha]
        exact fun s hs => ⟨hs.tables.clear_outside hP, hs.history, hs.isStrict⟩
      observe := fun s hs => ⟨hobserve s.world hs.tables, hs.history, hs.isStrict⟩
      report := (lasting_agreeOn t).report
      statistics := fun _ _ hs => ⟨hs.tables, hs.history, hs.isStrict⟩
      forget := fun _ hs => ⟨hs.tables, hs.history.clear_outside hP, hs.isStrict⟩
      record := fun _ u _ hs => ⟨hs.tables, hs.history.append_outside hP u, hs.isStrict⟩ }

theorem judgeAll_keeps_agreeOn {pairs : List (Rule × Json)} (hP : ∀ x ∈ pairs, ¬P ⟨key, x.1.id⟩)
    (t : Session (κ × Tables)) :
    Act.Keeps (fun s : Session (κ × Tables) => s.AgreeOn P t) (a.judgeAll key pairs) :=
  judgeAll_keeps (lasting_agreeOn t) fun x hx => evaluate_keeps_agreeOn ha (hP x hx) t

/-- An event changes nothing in a region without slots of its rules. -/
theorem process_keeps_agreeOn {e : Event} (hP : ∀ r ∈ a.rules, ¬P ⟨e.key, r.id⟩)
    (t : Session (κ × Tables)) :
    Act.Keeps (fun s : Session (κ × Tables) => s.AgreeOn P t) (a.process e) :=
  process_keeps (lasting_agreeOn t) fun r hr _ _ => evaluate_keeps_agreeOn ha (hP r hr) t

end Auditor
end ExpiryAudit
