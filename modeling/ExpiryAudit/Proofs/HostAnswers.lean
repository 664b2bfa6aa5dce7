import ExpiryAudit.Proofs.Oversize
import ExpiryAudit.Proofs.SideBySide

/-!
# What a host answers

What a host answers decides about the diagnostics and nothing else. Two audits with one clock
and hosts that oblige make the same calls, record the same history and count the same, as long
as no event fails for a number that is too large: a line that cannot be written ends its event,
and whether there is one depends on the answers.
-/
namespace ExpiryAudit

namespace Statistics

/-- What is counted. Summaries do not change it. -/
def counts (s : Statistics) : Nat × Nat × Nat := (s.updates, s.clashes, s.historyLength)

theorem counts_count {s t : Statistics} (h : s.counts = t.counts) (clash : Bool) (length : Nat) :
    (s.count clash length).counts = (t.count clash length).counts := by
  simp only [counts, Prod.mk.injEq] at h
  obtain ⟨hupdates, hclashes, hlength⟩ := h
  simp only [counts, count, hupdates, hclashes, hlength]

theorem counts_flush (s : Statistics) : (flush.run s).2.counts = s.counts := by
  simp only [Act.run, flush]
  split <;> rfl

end Statistics

variable {κ η θ : Type}

/-! ## Sessions side by side -/

namespace Session

/-- Two sessions with one history and the same counts, in worlds side by side. -/
structure Beside (I : η → Prop) (J : θ → Prop) (P : History → Prop) (s : Session (Traced κ η))
    (t : Session (Traced κ θ)) : Prop where
  world : Traced.Beside I J s.world t.world
  history : s.history = t.history
  records : P s.history
  counts : s.statistics.counts = t.statistics.counts

variable {I : η → Prop} {J : θ → Prop} {P : History → Prop} {α β : Type} {V : α → β → Prop}
  {E : Fault → Prop}

theorem lasting_left (t : Session (Traced κ θ)) :
    Session.Lasting fun s : Session (Traced κ η) => s.Beside I J P t where
  report := fun _ => Act.Keeps.within fun _ _ hs => ⟨hs.world, hs.history, hs.records, hs.counts⟩
  events := fun _ _ hs => ⟨hs.world, hs.history, hs.records, hs.counts⟩
  failures := fun _ _ hs => ⟨hs.world, hs.history, hs.records, hs.counts⟩

theorem lasting_right (s : Session (Traced κ η)) :
    Session.Lasting fun t : Session (Traced κ θ) => s.Beside I J P t where
  report := fun _ => Act.Keeps.within fun _ _ ht => ⟨ht.world, ht.history, ht.records, ht.counts⟩
  events := fun _ _ ht => ⟨ht.world, ht.history, ht.records, ht.counts⟩
  failures := fun _ _ ht => ⟨ht.world, ht.history, ht.records, ht.counts⟩

theorem together_inWorld {a : Act (Traced κ η) α} {b : Act (Traced κ θ) β}
    (h : Act.Together (Traced.Beside I J) V E a b) :
    Act.Together (Session.Beside I J P) V E (inWorld a) (inWorld b) := by
  intro s t hst
  rw [inWorld, inWorld, Act.run_within, Act.run_within]
  have hended := h s.world t.world hst.world
  revert hended
  generalize a.run s.world = left
  generalize b.run t.world = right
  intro hended
  cases hended with
  | returned result state => exact .returned result ⟨state, hst.history, hst.records, hst.counts⟩
  | failed state => exact .failed ⟨state, hst.history, hst.records, hst.counts⟩
  | left fault => exact .left fault
  | right fault => exact .right fault

theorem together_report (e e' : LogEntry) :
    Act.Together (Session.Beside (κ := κ) I J P) (fun _ _ => True) Fault.IsOversize (report e)
      (report e') :=
  .of_keeps (fun t => (lasting_left t).report e) (fun s => (lasting_right s).report e')
    (fun _ _ _ h => .inl (eq_of_report_error h)) (fun _ _ _ h => .inl (eq_of_report_error h))

theorem together_reportAny (e e' : Option LogEntry) :
    Act.Together (Session.Beside (κ := κ) I J P) (fun _ _ => True) Fault.IsOversize (reportAny e)
      (reportAny e') := by
  have hfault : ∀ {σ : Type} {e : Option LogEntry} (s : Session σ) f s',
      (reportAny e).run s = (.error f, s') → f.IsOversize := fun {σ e} s f s' h => by
    cases e with
    | none => cases h
    | some e => exact .inl (eq_of_report_error h)
  exact .of_keeps (fun t => reportAny_keeps (lasting_left t).report e)
    (fun s => reportAny_keeps (lasting_right s).report e') hfault hfault

/-- Summaries may be due at different times. -/
theorem together_count (clash : Bool) (length : Nat) :
    Act.Together (Session.Beside (κ := κ) I J P) (fun _ _ => True) Fault.IsOversize
      (count clash length) (count clash length) := by
  have hfault : ∀ {σ : Type} (s : Session σ) f s',
      (inStatistics Statistics.flush).run s = (.error f, s') → f.IsOversize := fun s f s' h => by
    rw [inStatistics, Act.run_within] at h
    obtain ⟨hsummary, -⟩ := run_flush_error (Prod.ext (Prod.mk.inj h).1 rfl)
    exact .inr (Statistics.eq_of_summary_error hsummary)
  have hcount := fun (s : Session (Traced κ η)) (t : Session (Traced κ θ))
      (hst : s.Beside I J P t) => Statistics.counts_count hst.counts clash length
  refine (Act.Together.modify fun s t hst =>
    ⟨hst.world, hst.history, hst.records, hcount s t hst⟩).bind fun _ _ _ => ?_
  refine (Act.Together.of_keeps (fun t s hst => ?_) (fun s t hst => ?_) hfault hfault).bind
    fun _ _ _ => together_reportAny _ _
  · exact ⟨hst.world, hst.history, hst.records, (Statistics.counts_flush _).trans hst.counts⟩
  · exact ⟨hst.world, hst.history, hst.records, hst.counts.trans (Statistics.counts_flush _).symm⟩

end Session

namespace Auditor

/-! ## An event -/

/-- Two auditors with the same rules and one clock, each with a host of its own. -/
structure Beside (clock : Act κ Int) (g : Host η) (h : Host θ) (a : Auditor (Traced κ η))
    (b : Auditor (Traced κ θ)) : Prop where
  rules : a.rules = b.rules
  detector : a.detector = b.detector
  left : a.environment = .traced clock g
  right : b.environment = .traced clock h

section Beside

variable {I : η → Prop} {J : θ → Prop} {clock : Act κ Int} {g : Host η} {h : Host θ}
  {a : Auditor (Traced κ η)} {b : Auditor (Traced κ θ)} {r : Rule} {key : Text} {p : Payload}

theorem together_judge {P : History → Prop} {v v' : Verification} (hv : v.Complete)
    (hv' : v'.Complete) :
    Act.Together (Session.Beside (κ := κ) I J P) (fun _ _ => True) Fault.IsOversize (judge v)
      (judge v') :=
  .of_keeps (fun t => judge_keeps (Session.lasting_left t) v)
    (fun s => judge_keeps (Session.lasting_right s) v')
    (fun _ _ _ => oversize_of_judge_error hv) (fun _ _ _ => oversize_of_judge_error hv')

theorem together_record (hlifetime : ∃ amount, r.lifetime.IsWhole amount) (hp : r.kind.Accepts p)
    {previous : List Update} {o o' : Observation}
    (hprevious : ∀ u ∈ previous, r.kind.Accepts u.payload) (ho : o.Twins p o') (clash : Bool) :
    Act.Together (Session.Beside (κ := κ) I J a.RecordsAccepted)
      (fun v v' : Verification => v.Complete ∧ v'.Complete) Fault.IsOversize
      (record r key clash previous o) (record r key clash previous o') := by
  refine (Session.together_count _ _).bind fun _ _ _ => ?_
  rw [← ho.update]
  refine (Act.Together.lift _).bind ?_
  rintro u _ ⟨rfl, hu⟩
  have hleft := ho.left u hu
  have hright := ho.right u (ho.update ▸ hu)
  have hpayload : u.payload = p := (Observation.update_eq_ok hu).1.trans hleft.payload
  refine (Act.Together.modify fun s t hst => ?_).bind fun _ _ _ => .pure ?_
  · exact ⟨hst.world, congrArg (·.append ⟨key, r.id⟩ u) hst.history,
      hst.records.append (hpayload ▸ hp), hst.counts⟩
  · have hcomplete : ∀ x : Observation, x.Complete p →
        (⟨key, r, previous, x⟩ : Verification).Complete := fun x hx =>
      ⟨hlifetime, hprevious, hx.payload ▸ hx, hx.payload ▸ hp⟩
    exact ⟨hcomplete o hleft, hcomplete o' hright⟩

section Hosts

variable (hab : Beside clock g h a b) (hg : g.Obliges I) (hh : h.Obliges J)

include hab hg hh

theorem together_observe (hwhole : (r.handle key).IsWhole) :
    Act.Together (Session.Beside I J a.RecordsAccepted) (Observation.Twins p) Fault.IsOversize
      (Session.inWorld (r.observe a.environment (r.handle key) p))
      (Session.inWorld (r.observe b.environment (r.handle key) p)) := by
  rw [hab.left, hab.right]
  exact Session.together_inWorld (Rule.together_observe hg hh hwhole)

theorem together_retry (hwhole : (r.handle key).IsWhole) :
    Act.Together (Session.Beside I J a.RecordsAccepted) (Observation.Twins p) Fault.IsOversize
      (a.retry r key p) (b.retry r key p) := by
  have hclear : Act.Together (Session.Beside I J a.RecordsAccepted) (fun _ _ => True)
      Fault.IsOversize (Session.inWorld (a.environment.host.clear (r.handle key)))
      (Session.inWorld (b.environment.host.clear (r.handle key))) := by
    rw [hab.left, hab.right]
    exact Session.together_inWorld
      (Traced.Beside.done (hg.clear _ hwhole) (hh.clear _ hwhole) rfl)
  refine hclear.bind fun _ _ _ => ?_
  refine (Act.Together.modify fun s t hst => ?_).bind fun _ _ _ => ?_
  · exact ⟨hst.world, congrArg (·.clear ⟨key, r.id⟩) hst.history, hst.records.clear _, hst.counts⟩
  refine (together_observe hab hg hh hwhole).bind fun o o' ho => ?_
  exact (Session.together_report _ _).bind fun _ _ _ => .pure ho

/-- Both evaluations judge an attempt in one window against one history. -/
theorem together_evaluate (hr : r ∈ a.rules) (hlifetime : ∃ amount, r.lifetime.IsWhole amount)
    (hp : r.kind.Accepts p) :
    Act.Together (Session.Beside I J a.RecordsAccepted)
      (fun v v' : Verification => v.Complete ∧ v'.Complete) Fault.IsOversize
      (a.evaluate r key p) (b.evaluate r key p) := by
  have hwhole : (r.handle key).IsWhole := hlifetime
  have hacquire : Act.Together (Session.Beside I J a.RecordsAccepted) (fun _ _ => True)
      Fault.IsOversize (Session.inWorld (a.environment.host.acquire (r.handle key)))
      (Session.inWorld (b.environment.host.acquire (r.handle key))) := by
    rw [hab.left, hab.right]
    exact Session.together_inWorld
      (Traced.Beside.done (hg.acquire _ hwhole) (hh.acquire _ hwhole) rfl)
  have hload : Act.Together (Session.Beside (κ := κ) I J a.RecordsAccepted)
      (fun previous previous' => previous = previous' ∧ ∀ u ∈ previous, r.kind.Accepts u.payload)
      Fault.IsOversize (Session.loadHistory ⟨key, r.id⟩) (Session.loadHistory ⟨key, r.id⟩) :=
    fun s t hst => .returned ⟨congrArg (History.load · _) hst.history, hst.records r hr key⟩ hst
  refine hacquire.bind fun _ _ _ => hload.bind ?_
  rintro previous _ ⟨rfl, hprevious⟩
  refine (together_observe hab hg hh hwhole).bind fun first first' hfirst => ?_
  rw [← hfirst.update]
  refine (Act.Together.lift _).bind ?_
  rintro attempt _ ⟨rfl, -⟩
  rw [← hab.detector]
  refine (Session.together_reportAny _ _).bind fun _ _ _ => ?_
  dsimp only
  split
  · refine (together_retry hab hg hh hwhole).bind fun second second' hsecond => ?_
    rw [pure_bind, pure_bind]
    exact together_record hlifetime hp (List.forall_mem_nil _) hsecond _
  · rw [pure_bind, pure_bind]
    exact together_record hlifetime hp hprevious hfirst _

variable (hlifetimes : ∀ r ∈ a.rules, ∃ amount, r.lifetime.IsWhole amount)

include hlifetimes

theorem together_judgeAll {pairs : List (Rule × Json)}
    (hpairs : ∀ x ∈ pairs, x.1 ∈ a.rules ∧ x.1.kind.Accepts (.raw x.2)) :
    Act.Together (Session.Beside I J a.RecordsAccepted) (fun _ _ => True) Fault.IsOversize
      (a.judgeAll key pairs) (b.judgeAll key pairs) := by
  induction pairs with
  | nil => exact .pure trivial
  | cons pair rest ih =>
    obtain ⟨⟨hr, hp⟩, hrest⟩ := List.forall_mem_cons.1 hpairs
    refine (together_evaluate hab hg hh hr (hlifetimes _ hr) hp).bind fun v v' hv => ?_
    refine (together_judge hv.1 hv.2).bind fun _ _ _ => (ih hrest).bind fun _ _ _ => ?_
    exact .pure trivial

/-- An event comes to lines on both sides, or to one fault. -/
theorem together_process (e : Event) :
    Act.Together (Session.Beside I J a.RecordsAccepted) (fun _ _ => True) Fault.IsOversize
      (a.process e) (b.process e) := by
  have hprepare : b.prepare e = a.prepare e := by rw [prepare, prepare, hab.rules]
  have hcount : Act.Together (Session.Beside (κ := κ) I J a.RecordsAccepted) (fun _ _ => True)
      Fault.IsOversize Session.countEvent Session.countEvent := fun _ _ hst =>
    .returned trivial ⟨hst.world, hst.history, hst.records, hst.counts⟩
  rw [process, process, hprepare, ← hab.rules]
  refine (Act.Together.lift _).bind ?_
  rintro raws _ ⟨rfl, hraws⟩
  obtain ⟨-, haccepts⟩ := accepts_of_prepare hraws
  refine hcount.bind fun _ _ _ => ?_
  refine (together_judgeAll hab hg hh hlifetimes fun x hx =>
    ⟨(List.of_mem_zip hx).1, haccepts x hx⟩).bind fun _ _ _ => ?_
  exact (Session.together_report _ _).bind fun _ _ _ => .pure trivial

end Hosts
end Beside

/-! ## Runs -/

/-- Events one after another, whatever comes of each of them. -/
def processEach {σ : Type} (a : Auditor σ) :
    List Event → Session σ → List (Except Fault (List String)) × Session σ
  | [], s => ([], s)
  | e :: rest, s =>
    let first := (a.process e).run s
    let others := a.processEach rest first.2
    (first.1 :: others.1, others.2)

/-- No event failed for a number that is too large. -/
def NoneOversize (results : List (Except Fault (List String))) : Prop :=
  ∀ f, .error f ∈ results → ¬f.IsOversize

/-- What comes of events, but for their lines. -/
def withoutLines (results : List (Except Fault (List String))) : List (Except Fault Unit) :=
  results.map (·.map fun _ => ())

section Runs

variable {I : η → Prop} {J : θ → Prop} {clock : Act κ Int} {g : Host η} {h : Host θ}

/-- The step is that of one event, and a fault that both sides have in common ends it only. -/
theorem processEach_together {a : Auditor (Traced κ η)} {b : Auditor (Traced κ θ)}
    (hab : Beside clock g h a b) (hg : g.Obliges I) (hh : h.Obliges J)
    (hlifetimes : ∀ r ∈ a.rules, ∃ amount, r.lifetime.IsWhole amount) {events : List Event}
    {s : Session (Traced κ η)} {t : Session (Traced κ θ)}
    (hst : s.Beside I J a.RecordsAccepted t) (hs : NoneOversize (a.processEach events s).1)
    (ht : NoneOversize (b.processEach events t).1) :
    withoutLines (a.processEach events s).1 = withoutLines (b.processEach events t).1 ∧
      (a.processEach events s).2.Beside I J a.RecordsAccepted (b.processEach events t).2 := by
  induction events generalizing s t with
  | nil => exact ⟨rfl, hst⟩
  | cons e rest ih =>
    have hended := together_process hab hg hh hlifetimes e s t hst
    simp only [processEach, withoutLines, List.map_cons, NoneOversize, List.mem_cons] at hs ht ih ⊢
    revert hended hs ht
    generalize (a.process e).run s = first
    generalize (b.process e).run t = first'
    intro hended hs ht
    cases hended with
    | returned _ state =>
      obtain ⟨hlines, hlast⟩ := ih state (fun f hf => hs f (.inr hf)) fun f hf => ht f (.inr hf)
      exact ⟨congrArg₂ List.cons rfl hlines, hlast⟩
    | failed state =>
      obtain ⟨hlines, hlast⟩ := ih state (fun f hf => hs f (.inr hf)) fun f hf => ht f (.inr hf)
      exact ⟨congrArg₂ List.cons rfl hlines, hlast⟩
    | left fault => exact absurd fault (hs _ (.inl rfl))
    | right fault => exact absurd fault (ht _ (.inl rfl))

theorem beside_of_make {a : Auditor (Traced κ η)} {b : Auditor (Traced κ θ)} {rules : List Rule}
    {lifetime m n : Setting} (ha : make rules ⟨lifetime, m⟩ (.traced clock g) = .ok a)
    (hb : make rules ⟨lifetime, n⟩ (.traced clock h) = .ok b) : Beside clock g h a b := by
  unfold make at ha hb
  split at ha
  · next hnodup =>
    rw [dif_pos hnodup] at hb
    cases ha
    cases hb
    exact ⟨rfl, rfl, rfl, rfl⟩
  · cases ha

/-- What a host answers steers nothing. Two runs over the same events, with rules, lifetime and
clock in common, against any two hosts that answer every call with values that can be used, and
with summaries after any numbers of updates: as long as no event fails in either of them for a
number that is too large, every event has lines in both runs or fails in both with one fault, and
the runs end with equal histories and counts, having read the clock and called their hosts alike,
but for the amounts of running sums. -/
theorem independent_of_answers {a : Auditor (Traced κ η)} {b : Auditor (Traced κ θ)}
    {rules : List Rule} {lifetime m n : Setting} {k : κ} {w : η} {x : θ} {history : History}
    {log log' : Log} {events : List Event} (hg : g.Obliges I) (hh : h.Obliges J) (hw : I w)
    (hx : J x) (hrules : ∀ r ∈ rules, ∃ amount, r.lifetime.IsWhole amount)
    (ha : make rules ⟨lifetime, m⟩ (.traced clock g) = .ok a)
    (hb : make rules ⟨lifetime, n⟩ (.traced clock h) = .ok b)
    (hhistory : a.RecordsAccepted history) :
    let s := a.processEach events (.start (k, w, []) log history ⟨lifetime, m⟩)
    let t := b.processEach events (.start (k, x, []) log' history ⟨lifetime, n⟩)
    NoneOversize s.1 → NoneOversize t.1 →
      withoutLines s.1 = withoutLines t.1 ∧ s.2.history = t.2.history ∧
        s.2.statistics.counts = t.2.statistics.counts ∧ s.2.world.1 = t.2.world.1 ∧
        s.2.world.calls.map HostCall.masked = t.2.world.calls.map HostCall.masked := by
  intro s t hs ht
  obtain ⟨rfl, -, -⟩ := make_eq_ok ha
  obtain ⟨hresults, hlast⟩ := processEach_together (beside_of_make ha hb) hg hh hrules
    ⟨⟨rfl, rfl, hw, hx⟩, rfl, hhistory, rfl⟩ hs ht
  exact ⟨hresults, hlast.history, hlast.counts, hlast.world.clock, hlast.world.calls⟩

end Runs

theorem noneOversize_of_isOk {results : List (Except Fault (List String))}
    (h : (results.all fun x => x.isOk) = true) : NoneOversize results := fun _ hf =>
  nomatch List.all_eq_true.1 h _ hf

/-- A store that keeps what is written and one that forgets it. -/
theorem independent_of_answers_of_two_events :
    let lifetime : Setting := .ofInt 10 (by decide)
    let rules : List Rule := [⟨.reducing, .whole lifetime⟩, ⟨.value, .whole lifetime⟩]
    let clock : Act TimeSource Int := TimeSource.now
    let e : Event := ⟨"k", .obj [("reducing", .int 1), ("value", .int 2)], by decide⟩
    let k : TimeSource := .scripted [0, 0, 0, 0, 20, 20, 20, 20] 0
    let w : TimeSource × Tables := (.stepping 0 0, .empty)
    let m : Setting := .ofInt 1 (by decide)
    let n : Setting := .ofInt 1000 (by decide)
    let keeping := Behaviour.faithful.host TimeSource.hostNow
    let forgetting := Behaviour.forgetful.host TimeSource.hostNow
    ∃ a b, make rules ⟨lifetime, m⟩ (.traced clock keeping) = .ok a ∧
      make rules ⟨lifetime, n⟩ (.traced clock forgetting) = .ok b ∧
      let s := a.processEach [e, e] (.start (k, w, []) .lenient .empty ⟨lifetime, m⟩)
      let t := b.processEach [e, e] (.start (k, w, []) .lenient .empty ⟨lifetime, n⟩)
      (s.1.map fun x => x.toOption.map (·.length)) = [some 0, some 2] ∧
        (t.1.map fun x => x.toOption.map (·.length)) = [some 2, some 2] ∧
        s.2.history = t.2.history ∧ s.2.statistics.counts = t.2.statistics.counts ∧
        s.2.world.calls.map HostCall.masked = t.2.world.calls.map HostCall.masked := by
  intro lifetime rules clock e k w m n keeping forgetting
  let a : Auditor (Traced TimeSource (TimeSource × Tables)) :=
    ⟨rules, ⟨10, by decide⟩, .traced clock keeping, by decide⟩
  let b : Auditor (Traced TimeSource (TimeSource × Tables)) :=
    ⟨rules, ⟨10, by decide⟩, .traced clock forgetting, by decide⟩
  have ha : make rules ⟨lifetime, m⟩ (.traced clock keeping) = .ok a := rfl
  have hb : make rules ⟨lifetime, n⟩ (.traced clock forgetting) = .ok b := rfl
  have hrules : ∀ r ∈ rules, ∃ amount, r.lifetime.IsWhole amount := by
    intro r hr
    rcases List.mem_pair.1 hr with rfl | rfl <;> exact ⟨10, lifetime, rfl, rfl⟩
  obtain ⟨-, hhistory, hcounts, -, hcalls⟩ := @independent_of_answers TimeSource
    (TimeSource × Tables) (TimeSource × Tables) _ _ clock _ _ a b rules lifetime m n k w w .empty
    .lenient .lenient [e, e] (Behaviour.obliges (by decide) TimeSource.hostNow_returns)
    (Behaviour.obliges (by decide) TimeSource.hostNow_returns) Tables.typed_empty
    Tables.typed_empty hrules ha hb recordsAccepted_empty
    (noneOversize_of_isOk (by decide +kernel)) (noneOversize_of_isOk (by decide +kernel))
  exact ⟨a, b, ha, hb, by decide +kernel, by decide +kernel, hhistory, hcounts, hcalls⟩

/-- A line that cannot be written ends its event: against the store that keeps what is written
the second event has no part for the second rule. -/
theorem answers_end_event :
    let lifetime : Setting := .ofInt 10 (by decide)
    let rules : List Rule := [⟨.reducing, .whole lifetime⟩, ⟨.value, .whole lifetime⟩]
    let clock : Act TimeSource Int := TimeSource.now
    let e : Event :=
      ⟨"k", .obj [("reducing", .int (10 ^ 4300 - 1 : Nat)), ("value", .int 2)], by decide⟩
    let k : TimeSource := .scripted [0, 0, 0, 0, 20, 20, 20, 20] 0
    let w : TimeSource × Tables := (.stepping 0 0, .empty)
    let config : Config := ⟨lifetime, .ofInt 1000 (by decide)⟩
    let keeping := Behaviour.faithful.host TimeSource.hostNow
    let forgetting := Behaviour.forgetful.host TimeSource.hostNow
    let I : TimeSource × Tables → Prop := fun s => s.2.Typed
    keeping.Obliges I ∧ forgetting.Obliges I ∧ I w ∧
      ∃ a b, make rules config (.traced clock keeping) = .ok a ∧
        make rules config (.traced clock forgetting) = .ok b ∧
        let s := a.processEach [e, e] (.start (k, w, []) .lenient .empty config)
        let t := b.processEach [e, e] (.start (k, w, []) .lenient .empty config)
        s.2.history ≠ t.2.history ∧ s.2.statistics.counts ≠ t.2.statistics.counts ∧
          s.2.world.calls.length ≠ t.2.world.calls.length := by
  intro lifetime rules clock e k w config keeping forgetting I
  let a : Auditor (Traced TimeSource (TimeSource × Tables)) :=
    ⟨rules, ⟨10, by decide⟩, .traced clock keeping, by decide⟩
  let b : Auditor (Traced TimeSource (TimeSource × Tables)) :=
    ⟨rules, ⟨10, by decide⟩, .traced clock forgetting, by decide⟩
  refine ⟨Behaviour.obliges (by decide) TimeSource.hostNow_returns,
    Behaviour.obliges (by decide) TimeSource.hostNow_returns, Tables.typed_empty, a, b, rfl, rfl,
    fun hhistory => ?_, by decide +kernel, by decide +kernel⟩
  have hleft : ((a.processEach [e, e] (.start (k, w, []) .lenient .empty config)).2.history.load
      ⟨"k", "value"⟩).length = 1 := by decide +kernel
  have hright : ((b.processEach [e, e] (.start (k, w, []) .lenient .empty config)).2.history.load
      ⟨"k", "value"⟩).length = 2 := by decide +kernel
  rw [hhistory, hright] at hleft
  cases hleft

end Auditor
end ExpiryAudit
