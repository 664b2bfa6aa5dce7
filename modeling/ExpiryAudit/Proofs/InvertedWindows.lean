import ExpiryAudit.Proofs.Bookkeeping
import ExpiryAudit.Proofs.Outcome

/-!
# Windows that run backwards

A clock may step back between the two readings of an attempt. Then the window of the attempt
is refused, and the evaluation ends there. In a first attempt this happens before anything
is counted. A second attempt is counted before its window is looked at: its update stays in
the statistics, and may bring out a summary, but is never recorded.
-/
namespace ExpiryAudit

variable {σ : Type}

/-- The instants of an observation run backwards. -/
def Observation.isInverted (o : Observation) : Bool := decide (o.after < o.before)

theorem Observation.update_of_isInverted {o : Observation} (h : o.isInverted = true) :
    o.update = .error (.inverted o.before o.after) := by
  have hlt : ¬o.before ≤ o.after := Int.not_le.2 (of_decide_eq_true h)
  unfold update Window.make
  rw [dif_neg hlt]
  rfl

theorem Observation.isInverted_of_update {o : Observation} {f : Fault} (h : o.update = .error f) :
    o.isInverted = true := by
  unfold isInverted
  by_contra hle
  rw [decide_eq_true_eq, Int.not_lt] at hle
  unfold update at h
  rw [Window.make_of_le hle] at h
  cases h

/-- A flush changes none of the totals. -/
theorem Statistics.run_flush_totals (s : Statistics) :
    (flush.run s).2.updates = s.updates ∧ (flush.run s).2.clashes = s.clashes ∧
      (flush.run s).2.historyLength = s.historyLength := by
  unfold Act.run flush
  split
  · exact ⟨rfl, rfl, rfl⟩
  · exact ⟨rfl, rfl, rfl⟩

/-- Counting an update leaves the statistics that a flush leaves, whatever comes of it. -/
theorem Session.run_count_statistics (clash : Bool) (length : Nat) (s : Session σ) :
    ((count clash length).run s).2.statistics =
      (Statistics.flush.run (s.statistics.count clash length)).2 := by
  cases hflush : Statistics.flush.run (s.statistics.count clash length) with
  | mk result statistics =>
    have hwithin : (inStatistics Statistics.flush).run
        { s with statistics := s.statistics.count clash length } =
        (result, { s with statistics := statistics }) := by
      rw [inStatistics, Act.run_within, hflush]
    have hmodified : (Act.modify fun s : Session σ =>
        { s with statistics := s.statistics.count clash length }).run s =
        (.ok (), { s with statistics := s.statistics.count clash length }) := rfl
    rw [count, Act.run_bind_ok hmodified]
    cases result with
    | error f => rw [Act.run_bind_error hwithin]
    | ok summary =>
      rw [Act.run_bind_ok hwithin]
      cases hreported : (reportAny (summary.map .summary)).run { s with statistics := statistics } with
      | mk reported t =>
        cases reported with
        | error f =>
          obtain ⟨log, rfl⟩ := run_reportAny_error hreported
          rfl
        | ok x =>
          obtain ⟨log, rfl⟩ := run_reportAny_ok hreported
          rfl

namespace Auditor

/-- The end of an evaluation that fails leaves the statistics of its count. -/
theorem run_record_statistics {r : Rule} {key : Text} {clash : Bool} {previous : List Update}
    {o : Observation} {f : Fault} {s t : Session σ}
    (h : (record r key clash previous o).run s = (.error f, t)) :
    t.statistics = (Statistics.flush.run (s.statistics.count clash previous.length)).2 := by
  rw [← Session.run_count_statistics]
  rcases Act.run_bind_eq_error h with h | ⟨⟨⟩, s₁, hcount, h⟩
  · rw [h]
  rw [hcount]
  rcases Act.run_bind_eq_error h with h | ⟨u, s₂, -, h⟩
  · rw [Act.run_lift] at h
    obtain ⟨-, rfl⟩ := Prod.mk.inj h
    rfl
  · rcases Act.run_bind_eq_error h with h | ⟨⟨⟩, s₃, -, h⟩
    · cases h
    · cases h

/-! ## The attempts of an evaluation -/

/-- The first attempt of an evaluation. -/
def firstAttempt (a : Auditor σ) (r : Rule) (key : Text) (p : Payload) : Act σ Observation := do
  a.environment.host.acquire (r.handle key)
  r.observe a.environment (r.handle key) p

/-- The second attempt of an evaluation, if the first one is ambiguous. -/
def secondAttempt (a : Auditor σ) (r : Rule) (key : Text) (p : Payload)
    (previous : List Update) : Act σ (Option Observation) := do
  let first ← a.firstAttempt r key p
  let u ← Act.lift first.update
  if a.detector.isAmbiguous u.window (windows previous) then
    a.environment.host.clear (r.handle key)
    let o ← r.observe a.environment (r.handle key) p
    return some o
  else return none

/-- The window of the first attempt runs backwards. -/
def firstInverts (a : Auditor σ) (r : Rule) (key : Text) (p : Payload) (s : Session σ) : Bool :=
  match ((a.firstAttempt r key p).run s.world).1 with
  | .ok o => o.isInverted
  | .error _ => false

/-- There is a second attempt, and its window runs backwards. -/
def retryInverts (a : Auditor σ) (r : Rule) (key : Text) (p : Payload) (s : Session σ) : Bool :=
  match ((a.secondAttempt r key p (s.history.load ⟨key, r.id⟩)).run s.world).1 with
  | .ok (some o) => o.isInverted
  | _ => false

section Evaluation

variable {a : Auditor σ} {r : Rule} {key : Text} {p : Payload} {s t : Session σ}

theorem run_firstAttempt_eq_ok {o : Observation} {w w₁ : σ}
    (h : (a.firstAttempt r key p).run w = (.ok o, w₁)) :
    ∃ w₀, (a.environment.host.acquire (r.handle key)).run w = (.ok (), w₀) ∧
      (r.observe a.environment (r.handle key) p).run w₀ = (.ok o, w₁) := by
  obtain ⟨⟨⟩, w₀, hacquire, hobserve⟩ := Act.run_bind_eq_ok h
  exact ⟨w₀, hacquire, hobserve⟩

/-- An evaluation whose first attempt runs backwards ends there, with nothing counted and
nothing forgotten. -/
theorem run_evaluate_of_firstInverts (h : a.firstInverts r key p s = true) :
    ∃ (o : Observation) (w : σ), (a.evaluate r key p).run s =
      (.error (.inverted o.before o.after), { s with world := w }) ∧
      a.retryInverts r key p s = false := by
  unfold firstInverts at h
  cases hfirst : (a.firstAttempt r key p).run s.world with
  | mk result w₁ =>
    rw [hfirst] at h
    cases result with
    | error f => cases h
    | ok o =>
      obtain ⟨w₀, hacquire, hobserve⟩ := run_firstAttempt_eq_ok hfirst
      have hupdate := Observation.update_of_isInverted h
      have hlifted (w : σ) : (Act.lift o.update).run w =
          (.error (.inverted o.before o.after), w) := by
        rw [Act.run_lift, hupdate]
      refine ⟨o, w₁, ?_, ?_⟩
      · have hloaded : (Session.loadHistory ⟨key, r.id⟩).run { s with world := w₀ } =
            (.ok (s.history.load ⟨key, r.id⟩), { s with world := w₀ }) := rfl
        have hobserved : (Session.inWorld (r.observe a.environment (r.handle key) p)).run
            { s with world := w₀ } = (.ok o, { s with world := w₁ }) :=
          Session.run_inWorld_of_run hobserve
        rw [evaluate, Act.run_bind_ok (Session.run_inWorld_of_run hacquire),
          Act.run_bind_ok hloaded, Act.run_bind_ok hobserved]
        refine Act.run_bind_error ?_
        rw [Act.run_lift, hupdate]
      · have hsecond : (a.secondAttempt r key p (s.history.load ⟨key, r.id⟩)).run s.world =
            (.error (.inverted o.before o.after), w₁) := by
          rw [secondAttempt, Act.run_bind_ok hfirst, Act.run_bind_error (hlifted w₁)]
        unfold retryInverts
        rw [hsecond]

/-- A second attempt that runs backwards follows an ambiguous first one. -/
theorem clears_of_retryInverts (h : a.retryInverts r key p s = true) :
    ∃ w₀ w₁ w₂ w₃ first u o,
      (a.environment.host.acquire (r.handle key)).run s.world = (.ok (), w₀) ∧
      a.Attempt r key p w₀ w₁ first u ∧
      a.detector.isAmbiguous u.window (windows (s.history.load ⟨key, r.id⟩)) = true ∧
      (a.environment.host.clear (r.handle key)).run w₁ = (.ok (), w₂) ∧
      (r.observe a.environment (r.handle key) p).run w₂ = (.ok o, w₃) ∧ o.isInverted = true := by
  unfold retryInverts at h
  split at h
  · next o hsecond =>
    obtain ⟨first, w₁, hfirst, hrest⟩ := Act.run_bind_eq_ok (Prod.ext hsecond rfl)
    obtain ⟨w₀, hacquire, hobserve⟩ := run_firstAttempt_eq_ok hfirst
    obtain ⟨u, w₁', hlifted, hrest⟩ := Act.run_bind_eq_ok hrest
    obtain ⟨hupdate, rfl⟩ := Act.run_lift_eq_ok hlifted
    split at hrest
    · next hambiguous =>
      obtain ⟨⟨⟩, w₂, hclear, hrest⟩ := Act.run_bind_eq_ok hrest
      obtain ⟨o', w₃, hretry, hrest⟩ := Act.run_bind_eq_ok hrest
      obtain ⟨ho, -⟩ := Act.run_pure_eq_ok hrest
      cases ho
      exact ⟨w₀, w₁, w₂, w₃, first, u, o, hacquire, ⟨hobserve, hupdate⟩, hambiguous, hclear,
        hretry, h⟩
    · obtain ⟨hnone, -⟩ := Act.run_pure_eq_ok hrest
      cases hnone
  · cases h

theorem retryInverts_of_observe {w₀ w₁ w₂ w₃ : σ} {first o : Observation} {u : Update}
    (hacquire : (a.environment.host.acquire (r.handle key)).run s.world = (.ok (), w₀))
    (hattempt : a.Attempt r key p w₀ w₁ first u)
    (hambiguous :
      a.detector.isAmbiguous u.window (windows (s.history.load ⟨key, r.id⟩)) = true)
    (hclear : (a.environment.host.clear (r.handle key)).run w₁ = (.ok (), w₂))
    (hobserve : (r.observe a.environment (r.handle key) p).run w₂ = (.ok o, w₃)) :
    a.retryInverts r key p s = o.isInverted := by
  have hfirst : (a.firstAttempt r key p).run s.world = (.ok first, w₁) := by
    rw [firstAttempt, Act.run_bind_ok hacquire, hattempt.observed]
  have hlifted : (Act.lift first.update).run w₁ = (.ok u, w₁) := by
    rw [Act.run_lift, hattempt.update]
  have hsecond : (a.secondAttempt r key p (s.history.load ⟨key, r.id⟩)).run s.world =
      (.ok (some o), w₃) := by
    rw [secondAttempt, Act.run_bind_ok hfirst, Act.run_bind_ok hlifted, if_pos hambiguous,
      Act.run_bind_ok hclear, Act.run_bind_ok hobserve]
    rfl
  unfold retryInverts
  rw [hsecond]

/-- An evaluation whose second attempt runs backwards has counted its update, and has
forgotten the history of the slot. -/
theorem run_evaluate_of_retryInverts (h : a.retryInverts r key p s = true) {before after : Int}
    (hrun : (a.evaluate r key p).run s = (.error (.inverted before after), t)) :
    t.statistics = (Statistics.flush.run (s.statistics.count true 0)).2 ∧
      t.history = s.history.clear ⟨key, r.id⟩ := by
  obtain ⟨w₀, w₁, w₂, w₃, first, u, o, hacquire, hattempt, hambiguous, hclear, hobserve,
    hinverted⟩ := clears_of_retryInverts h
  rcases run_evaluate_attempted hacquire hattempt with ⟨log, hjudged⟩ | ⟨-, t', hrefused⟩
  · obtain ⟨log', hretried⟩ := run_retry_of_observe (s := { s with world := w₁, log := log })
      hclear hobserve
    rw [hambiguous, if_pos rfl] at hjudged
    have hrecord := hrun.symm.trans (hjudged.trans (Act.run_bind_ok hretried))
    have hcounted := run_record_statistics hrecord.symm
    dsimp only [List.length_nil] at hcounted
    exact ⟨hcounted, (run_record_error hrecord.symm).2.1⟩
  · cases hrun.symm.trans hrefused

/-- An evaluation that ends in a window which runs backwards has counted nothing, unless it
was the window of its second attempt. -/
theorem statistics_eq_of_inverted {before after : Int}
    (hrun : (a.evaluate r key p).run s = (.error (.inverted before after), t))
    (hretry : a.retryInverts r key p s = false) : t.statistics = s.statistics := by
  cases fails_of_run hrun with
  | stopped _ statistics => exact statistics
  | emptied _ _ statistics => exact statistics
  | overflowed _ _ summary _ => cases Statistics.eq_of_summary_error summary
  | inverted cleared observed update _ _ =>
    obtain ⟨w₀, w₁, first, u, hacquire, hattempt, hambiguous, hclear⟩ := cleared
    rw [retryInverts_of_observe hacquire hattempt hambiguous hclear observed] at hretry
    rw [Observation.isInverted_of_update update] at hretry
    cases hretry

end Evaluation

/-! ## Counted and recorded -/

/-- The slot of an evaluation that ends in the window of its second attempt. -/
def lostBy (a : Auditor σ) (r : Rule) (key : Text) (p : Payload) (s : Session σ) :
    Except Fault Verification → List Slot
  | .error (.inverted _ _) => if a.retryInverts r key p s then [⟨key, r.id⟩] else []
  | _ => []

/-- The slots for which evaluations of some rules end in the window of a second attempt. -/
def lostOf (a : Auditor σ) (key : Text) : List (Rule × Json) → Session σ → List Slot
  | [], _ => []
  | (r, raw) :: rest, s =>
    match (a.evaluate r key (.raw raw)).run s with
    | (.error f, _) => a.lostBy r key (.raw raw) s (.error f)
    | (.ok v, t) =>
      match (judge v).run t with
      | (.error _, _) => []
      | (.ok _, u) => lostOf a key rest u

/-- The slots for which an event ends in the window of a second attempt. -/
def lost (a : Auditor σ) (e : Event) (s : Session σ) : List Slot :=
  match a.prepare e with
  | .ok raws => a.lostOf e.key (a.rules.zip raws) { s with events := s.events + 1 }
  | .error _ => []

/-- The sessions that a run comes to, whatever comes of its events, with everything that was
recorded until then and with the slots of all second attempts that ran backwards. -/
inductive Accounts (a : Auditor σ) (moves : σ → σ → Prop) (s₀ : Session σ) :
    Session σ → List (Slot × Update) → List Slot → Prop
  | start : Accounts a moves s₀ s₀ [] []
  | process {s : Session σ} {entries : List (Slot × Update)} {slots : List Slot} (e : Event) :
      Accounts a moves s₀ s entries slots →
      Accounts a moves s₀ ((a.process e).run s).2 (entries ++ a.recorded e s) (slots ++ a.lost e s)
  | move {s : Session σ} {entries : List (Slot × Update)} {slots : List Slot} {w : σ} :
      Accounts a moves s₀ s entries slots → moves s.world w →
      Accounts a moves s₀ { s with world := w } entries slots

/-- The statistics count what was recorded and what was lost, and no slot holds more than was
counted. -/
structure Account (s : Session σ) (recorded lost : Nat) : Prop where
  counted : s.statistics.updates = recorded + lost
  bounded : s.statistics.Bounded
  length_le : ∀ slot, (s.history.load slot).length ≤ s.statistics.updates

/-- An account as long as averages are finite. -/
def Accounted (s : Session σ) (recorded lost : Nat) : Prop :=
  s.statistics.updates < Statistics.capacity → Account s recorded lost

section Step

variable {a : Auditor σ} {r : Rule} {key : Text} {p : Payload} {s t : Session σ} {n m : Nat}

theorem Accounted.of_eq (hs : Accounted s n m) (h : t.core.2 = s.core.2) : Accounted t n m := by
  obtain ⟨hhistory, hstatistics⟩ := Prod.mk.inj h
  intro hsize
  obtain ⟨hcounted, hbounded, hlength⟩ := hs (hstatistics ▸ hsize)
  exact ⟨hstatistics ▸ hcounted, hstatistics ▸ hbounded, by rwa [hhistory, hstatistics]⟩

/-- An evaluation that returns has counted one update and recorded it. -/
theorem Account.evaluates (hs : Account s n m) {v : Verification}
    (h : a.Evaluates r key p s v t) :
    Account t (n + (t.history.last ⟨key, r.id⟩).length) m := by
  obtain ⟨u, hrecorded⟩ := h.recorded fun _ _ => False
  obtain ⟨clash, hcounted⟩ := h.counted
  have hprevious := Nat.le_trans hrecorded.previous_suffix.length_le (hs.length_le ⟨key, r.id⟩)
  have hlast : (t.history.last ⟨key, r.id⟩).length = 1 := by
    rw [History.last, hrecorded.load, if_pos rfl, List.getLast?_concat]
    rfl
  refine ⟨?_, hcounted.bounded hs.bounded hprevious, fun slot => ?_⟩
  · rw [hcounted.updates, hs.counted, hlast]
    omega
  · rw [hrecorded.load, hcounted.updates]
    split
    · rw [List.length_append, List.length_singleton]
      omega
    · exact Nat.le_succ_of_le (hs.length_le slot)

theorem counted_of_retryInverts (h : a.retryInverts r key p s = true) {before after : Int}
    (hrun : (a.evaluate r key p).run s = (.error (.inverted before after), t)) :
    s.Counted t true 0 := by
  obtain ⟨hstatistics, -⟩ := run_evaluate_of_retryInverts h hrun
  obtain ⟨hupdates, hclashes, hlength⟩ := Statistics.run_flush_totals (s.statistics.count true 0)
  exact ⟨hstatistics ▸ hupdates, hstatistics ▸ hclashes, hstatistics ▸ hlength⟩

theorem lostBy_cases (a : Auditor σ) (r : Rule) (key : Text) (p : Payload) (s : Session σ)
    (f : Fault) :
    (a.lostBy r key p s (.error f) = [⟨key, r.id⟩] ∧
      ∃ before after, f = .inverted before after ∧ a.retryInverts r key p s = true) ∨
    (a.lostBy r key p s (.error f) = [] ∧
      ∀ before after, f = .inverted before after → a.retryInverts r key p s = false) := by
  cases f with
  | inverted before after =>
    cases hretry : a.retryInverts r key p s with
    | true => exact .inl ⟨by simp [lostBy, hretry], before, after, rfl, rfl⟩
    | false => exact .inr ⟨by simp [lostBy, hretry], fun _ _ _ => rfl⟩
  | _ => exact .inr ⟨rfl, fun _ _ h => nomatch h⟩

/-- An evaluation that fails, below capacity, has counted its update only if it was lost. -/
theorem Account.fails (hs : Account s n m) {f : Fault}
    (h : (a.evaluate r key p).run s = (.error f, t))
    (hsize : t.statistics.updates < Statistics.capacity) :
    Account t n (m + (a.lostBy r key p s (.error f)).length) := by
  have hfails := fails_of_run h
  have hlength : ∀ slot, (t.history.load slot).length ≤ s.statistics.updates := fun slot => by
    rcases hfails.history_eq with hhistory | ⟨-, hhistory⟩
    · rw [hhistory]
      exact hs.length_le slot
    · rw [hhistory, History.load_clear]
      split
      · exact Nat.zero_le _
      · exact hs.length_le slot
  rcases lostBy_cases a r key p s f with
    ⟨hlost, before, after, rfl, hretry⟩ | ⟨hlost, hretry⟩
  · have hcounted := counted_of_retryInverts hretry h
    rw [hlost, List.length_singleton]
    refine ⟨?_, hcounted.bounded hs.bounded (Nat.zero_le _), fun slot => ?_⟩
    · rw [hcounted.updates, hs.counted]
      omega
    · rw [hcounted.updates]
      exact Nat.le_succ_of_le (hlength slot)
  · have hstatistics : t.statistics = s.statistics := by
      cases hfails with
      | stopped _ statistics => exact statistics
      | emptied _ _ statistics => exact statistics
      | @overflowed clash length _ _ bounded summary counted =>
        rw [counted.updates] at hsize
        have hcount := hs.bounded.count clash (Nat.le_trans bounded (hs.length_le _))
        obtain ⟨x, hx⟩ := hcount.summary_ok hsize
        cases summary.symm.trans hx
      | inverted _ _ update _ _ =>
        have hinverted := Observation.isInverted_of_update update
        rw [Observation.update_of_isInverted hinverted] at update
        cases update
        exact statistics_eq_of_inverted h (hretry _ _ rfl)
    rw [hlost, List.length_nil, Nat.add_zero]
    exact ⟨hstatistics ▸ hs.counted, hstatistics ▸ hs.bounded, hstatistics ▸ hlength⟩

/-- The step: one evaluation, whether it returns or fails. -/
theorem Accounted.evaluate (hs : Accounted s n m) {result : Except Fault Verification}
    (h : (a.evaluate r key p).run s = (result, t)) :
    Accounted t (n + (recordedBy ⟨key, r.id⟩ t result).length)
      (m + (a.lostBy r key p s result).length) := by
  intro hsize
  cases result with
  | ok v =>
    have hevaluates := evaluates_of_run h
    obtain ⟨clash, hcounted⟩ := hevaluates.counted
    have hle := hcounted.updates
    exact (hs (by omega)).evaluates hevaluates
  | error f => exact (hs (Nat.lt_of_le_of_lt (fails_of_run h).updates_le.1 hsize)).fails h hsize

/-- The rules of an event, up to the first one that fails. -/
theorem Accounted.judgeAll {pairs : List (Rule × Json)} (hs : Accounted s n m) :
    Accounted ((a.judgeAll key pairs).run s).2 (n + (a.recordedOf key pairs s).length)
      (m + (a.lostOf key pairs s).length) := by
  induction pairs generalizing s n m with
  | nil => exact hs
  | cons pair rest ih =>
    obtain ⟨r, raw⟩ := pair
    rw [Auditor.judgeAll]
    cases hevaluated : (a.evaluate r key (.raw raw)).run s with
    | mk result t =>
      have ht := hs.evaluate hevaluated
      cases result with
      | error f =>
        rw [Act.run_bind_error hevaluated]
        simp only [recordedOf, lostOf, hevaluated]
        exact ht
      | ok v =>
        rw [Act.run_bind_ok hevaluated]
        cases hjudged : (judge v).run t with
        | mk judged u =>
          have hcore := run_judge_core v t
          rw [hjudged] at hcore
          have hu := ht.of_eq (congrArg Prod.snd hcore)
          cases judged with
          | error f =>
            rw [Act.run_bind_error hjudged]
            simp only [recordedOf, lostOf, hevaluated, hjudged, List.append_nil]
            exact hu
          | ok line =>
            rw [Act.run_bind_ok hjudged, Act.run_bind_pure_snd]
            simp only [recordedOf, lostOf, hevaluated, hjudged, List.length_append]
            rw [← Nat.add_assoc]
            exact ih hu

/-- The step: one event, whatever comes of it. -/
theorem Accounted.process (hs : Accounted s n m) (e : Event) :
    Accounted ((a.process e).run s).2 (n + (a.recorded e s).length)
      (m + (a.lost e s).length) := by
  unfold recorded lost
  cases hraws : a.prepare e with
  | error f =>
    rw [run_process_refused hraws]
    exact hs
  | ok raws =>
    have hcounted : Accounted { s with events := s.events + 1 } n m := hs.of_eq rfl
    exact hcounted.judgeAll.of_eq (congrArg Prod.snd (run_process_core hraws s))

/-- Rules lose an update only where they end in a window that runs backwards. -/
theorem run_judgeAll_of_lostOf {pairs : List (Rule × Json)} (h : a.lostOf key pairs s ≠ []) :
    ∃ before after t, (a.judgeAll key pairs).run s = (.error (.inverted before after), t) := by
  induction pairs generalizing s with
  | nil => exact absurd rfl h
  | cons pair rest ih =>
    obtain ⟨r, raw⟩ := pair
    cases hevaluated : (a.evaluate r key (.raw raw)).run s with
    | mk result t =>
      cases result with
      | error f =>
        simp only [lostOf, hevaluated] at h
        rcases lostBy_cases a r key (.raw raw) s f with ⟨-, before, after, rfl, -⟩ | ⟨hnone, -⟩
        · exact ⟨before, after, t, Act.run_bind_error hevaluated⟩
        · exact absurd hnone h
      | ok v =>
        cases hjudged : (judge v).run t with
        | mk judged u =>
          simp only [lostOf, hevaluated, hjudged] at h
          cases judged with
          | error f => exact absurd rfl h
          | ok line =>
            obtain ⟨before, after, t', hrest⟩ := ih h
            refine ⟨before, after, t', ?_⟩
            rw [Auditor.judgeAll, Act.run_bind_ok hevaluated, Act.run_bind_ok hjudged]
            exact Act.run_bind_error hrest

theorem run_process_of_lost {e : Event} (h : a.lost e s ≠ []) :
    ∃ before after t, (a.process e).run s = (.error (.inverted before after), t) := by
  unfold lost at h
  split at h
  · next raws hraws =>
    obtain ⟨before, after, t, hjudged⟩ := run_judgeAll_of_lostOf h
    obtain ⟨log, -, hrun⟩ := run_process_accepted hraws hjudged
    exact ⟨before, after, _, hrun⟩
  · exact absurd rfl h

/-- A run, whatever the clock reads. -/
theorem Accounts.accounted {moves : σ → σ → Prop} {s₀ : Session σ}
    {entries : List (Slot × Update)} {slots : List Slot}
    (hs : a.Accounts moves s₀ s entries slots) (h₀ : Account s₀ 0 0) :
    Accounted s entries.length slots.length := by
  induction hs with
  | start => exact fun _ => h₀
  | process e _ ih =>
    rw [List.length_append, List.length_append]
    exact ih.process e
  | move _ _ ih => exact ih.of_eq rfl

end Step

/-- A window that runs backwards leaves the statistics alone, unless it is that of a second
attempt. That one counts one update and one clash with no history, the summary that is then
due is given, and the history of the slot is empty. So whatever host and clock do, the
statistics count every update that was ever recorded, and every second attempt whose window
ran backwards. -/
theorem inverted_windows_counted {config : Config} {a : Auditor σ} {moves : σ → σ → Prop} {w : σ}
    {log : Log} {s : Session σ} {entries : List (Slot × Update)} {slots : List Slot}
    (hs : a.Accounts moves (.start w log .empty config) s entries slots)
    (hsize : s.statistics.updates < Statistics.capacity) :
    s.statistics.updates = entries.length + slots.length ∧
    ∀ (m t : Session σ) r key p before after,
      (a.evaluate r key p).run m = (.error (.inverted before after), t) →
      (a.firstInverts r key p m = true →
        t.history = m.history ∧ t.statistics = m.statistics) ∧
      (a.retryInverts r key p m = false → t.statistics = m.statistics) ∧
      (a.retryInverts r key p m = true →
        t.history = m.history.clear ⟨key, r.id⟩ ∧
        t.statistics = (Statistics.flush.run (m.statistics.count true 0)).2 ∧
        m.Counted t true 0) := by
  have hstart : Account (Session.start w log .empty config) 0 0 :=
    ⟨rfl, Statistics.bounded_start _ _, fun _ => Nat.zero_le _⟩
  refine ⟨(hs.accounted hstart hsize).counted, fun m t r key p before after hrun => ?_⟩
  refine ⟨fun hfirst => ?_, statistics_eq_of_inverted hrun, fun hretry => ?_⟩
  · obtain ⟨o, w₁, hended, -⟩ := run_evaluate_of_firstInverts hfirst
    cases hrun.symm.trans hended
    exact ⟨rfl, rfl⟩
  · obtain ⟨hstatistics, hhistory⟩ := run_evaluate_of_retryInverts hretry hrun
    exact ⟨hhistory, hstatistics, counted_of_retryInverts hretry hrun⟩

/-- The first attempt is too slow and the clock steps back during the second one. -/
theorem inverted_windows_counted_of_one_event :
    let config : Config := ⟨.ofInt 10 (by decide), .ofInt 1000 (by decide)⟩
    let e : Event := ⟨"k", .obj [("value", .int 1)], by decide⟩
    let moves : TimeSource × Tables → TimeSource × Tables → Prop := fun _ _ => False
    let start : Session (TimeSource × Tables) :=
      .start (.scripted [0, 20, 30, 25] 0, .empty) .lenient .empty config
    let a : Auditor (TimeSource × Tables) :=
      ⟨[⟨.value, .whole config.lifetime⟩], ⟨10, by decide⟩, Behaviour.faithful.environment, by decide⟩
    let s := ((a.process e).run start).2
    a.Accounts moves start s (a.recorded e start) (a.lost e start) ∧
      s.statistics.updates < Statistics.capacity ∧
      s.statistics.updates = (a.recorded e start).length + (a.lost e start).length ∧
      (a.recorded e start).length = 0 ∧ (a.lost e start).length = 1 := by
  intro config e moves start a s
  have hstart : a.Accounts moves start start [] [] := .start
  have hs : a.Accounts moves start s ([] ++ a.recorded e start) ([] ++ a.lost e start) :=
    hstart.process e
  rw [List.nil_append, List.nil_append] at hs
  have hupdates : s.statistics.updates = 1 := by decide +kernel
  have hsize : s.statistics.updates < Statistics.capacity := by
    rw [hupdates]
    exact Statistics.lt_capacity (k := 1) (by decide) (by decide)
  exact ⟨hs, hsize, (inverted_windows_counted hs hsize).1, by decide +kernel, by decide +kernel⟩

/-- An event that ends in a window which runs backwards is counted and not recorded. -/
theorem inverted_retry_counted :
    let config : Config := ⟨.ofInt 10 (by decide), .ofInt 1000 (by decide)⟩
    let e : Event := ⟨"k", .obj [("value", .int 1)], by decide⟩
    let start : Session (TimeSource × Tables) :=
      .start (.scripted [0, 20, 30, 25] 0, .empty) .lenient .empty config
    let a : Auditor (TimeSource × Tables) :=
      ⟨[⟨.value, .whole config.lifetime⟩], ⟨10, by decide⟩, Behaviour.faithful.environment, by decide⟩
    ∃ before after t, (a.process e).run start = (.error (.inverted before after), t) ∧
      start.statistics.updates = 0 ∧ t.statistics.updates = 1 ∧ t.statistics.clashes = 1 ∧
      (a.recorded e start).length = 0 := by
  intro config e start a
  have hlost : a.lost e start ≠ [] := by decide +kernel
  have hupdates : ((a.process e).run start).2.statistics.updates = 1 := by decide +kernel
  have hclashes : ((a.process e).run start).2.statistics.clashes = 1 := by decide +kernel
  have hrecorded : (a.recorded e start).length = 0 := by decide +kernel
  obtain ⟨before, after, t, hrun⟩ := run_process_of_lost hlost
  rw [hrun] at hupdates hclashes
  exact ⟨before, after, t, hrun, rfl, hupdates, hclashes, hrecorded⟩

end Auditor
end ExpiryAudit
