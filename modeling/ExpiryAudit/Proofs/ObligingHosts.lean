import ExpiryAudit.Proofs.Bookkeeping
import ExpiryAudit.Proofs.EventLines
import ExpiryAudit.Proofs.Outcome
import ExpiryAudit.Proofs.TracedHosts

/-!
# Hosts that answer

Against a host that answers every call, with a clock that never goes backwards, an evaluation
comes to a verification that can be decided. An accepted event fails only if a number is too
large: for a record of a strict log, for a line, or for a summary.
-/
namespace ExpiryAudit

variable {σ : Type}

/-! ## Evaluations against a host that answers -/

/-- What was observed of a payload that the rule takes is judged after updates of that kind. -/
theorem Observation.Complete.judged {r : Rule} {p : Payload} {o : Observation}
    {previous : List Update} (key : Text) (ho : o.Complete p)
    (hlifetime : ∃ lifetime, r.lifetime.IsWhole lifetime) (hp : r.kind.Accepts p)
    (hprevious : ∀ u ∈ previous, r.kind.Accepts u.payload) :
    Verification.Complete ⟨key, r, previous, o⟩ := by
  obtain rfl := ho.payload
  exact ⟨hlifetime, hprevious, ho, hp⟩

/-- In states with a property, which it keeps, the environment answers every call of rules
whose lifetimes are whole, and no reading of its clock is later than one taken after it. -/
structure Environment.Obliging (env : Environment σ) (I : σ → Prop) (moves : σ → σ → Prop)
    (w₀ : σ) : Prop where
  host : env.host.Obliges I
  now : Act.Returns I env.now fun _ => I
  steady : env.Steady moves w₀

namespace Auditor

variable {a : Auditor σ} {I : σ → Prop} {moves : σ → σ → Prop} {w₀ : σ} {r : Rule} {key : Text}
  {p : Payload} {s t : Session σ}

section Obliging

variable (henv : a.environment.Obliging I moves w₀)

include henv

theorem returns_observe_of_obliging (key : Text)
    (hlifetime : ∃ lifetime, r.lifetime.IsWhole lifetime) (hp : r.kind.Accepts p) :
    Act.Returns I (r.observe a.environment (r.handle key) p) fun o w =>
      (o.payload = p ∧ (∃ v, o.valueBefore = .plain v) ∧ ∃ v, o.valueAfter = .plain v) ∧ I w :=
  Rule.returns_observe_of hp henv.now (henv.host.read _ hlifetime)
    fun c hc => henv.host.write _ c hlifetime hc

/-- An attempt gives a complete update. -/
theorem exists_attempt (key : Text) (hlifetime : ∃ lifetime, r.lifetime.IsWhole lifetime)
    (hp : r.kind.Accepts p) {w : σ} (hw : I w) (hlead : a.environment.Leads moves w₀ w) :
    ∃ o u w', a.Attempt r key p w w' o u ∧ o.Complete p ∧ I w' ∧
      a.environment.Leads moves w₀ w' := by
  obtain ⟨o, w', hobserve, ⟨hpayload, hbefore, hafter⟩, hw'⟩ :=
    returns_observe_of_obliging henv key hlifetime hp w hw
  obtain ⟨u, hu⟩ := Rule.exists_update_of_observe henv.steady hlead hobserve
  exact ⟨o, u, w', ⟨hobserve, hu⟩, ⟨hpayload, ⟨u, hu⟩, hbefore, hafter⟩, hw',
    Rule.leads_observe.of_run hobserve hlead⟩

/-- An evaluation comes to a verification that can be decided, unless a strict log refuses the
record of the verdict or averages are too large. -/
theorem exists_endsWith (key : Text) (hr : r ∈ a.rules)
    (hlifetime : ∃ lifetime, r.lifetime.IsWhole lifetime) (hp : r.kind.Accepts p)
    (hs : Keeps.Kept I a.RecordsAccepted s) (hlead : a.environment.Leads moves w₀ s.world) :
    ∃ v : Verification, v.Complete ∧
      v.previous.length ≤ (s.history.load ⟨key, r.id⟩).length ∧
      a.EndsWith r key p s v fun _ => True := by
  obtain ⟨⟨⟩, w, hacquire, hw⟩ := henv.host.acquire (r.handle key) hlifetime s.world hs.1
  have hlead : a.environment.Leads moves w₀ w :=
    Act.Keeps.of_run (fun _ hw => .acquire _ hw) hacquire hlead
  obtain ⟨o, u, w₁, hattempt, ho, hw₁, hlead₁⟩ := exists_attempt henv key hlifetime hp hw hlead
  cases hverdict : a.detector.isAmbiguous u.window (windows (s.history.load ⟨key, r.id⟩)) with
  | false =>
    refine ⟨_, ho.judged key hlifetime hp (hs.2 r hr key), Nat.le_refl _, ?_⟩
    exact (endsWith_of_unambiguous hacquire hattempt hverdict).imp_left
      fun ⟨t, hrun, _⟩ => ⟨t, hrun, trivial⟩
  | true =>
    obtain ⟨⟨⟩, w₂, hclear, hw₂⟩ := henv.host.clear (r.handle key) hlifetime w₁ hw₁
    have hlead₂ : a.environment.Leads moves w₀ w₂ :=
      Act.Keeps.of_run (fun _ hw => .clear _ hw) hclear hlead₁
    obtain ⟨o', u', w₃, hattempt', ho', -, -⟩ := exists_attempt henv key hlifetime hp hw₂ hlead₂
    refine ⟨_, ho'.judged key hlifetime hp (List.forall_mem_nil _), Nat.zero_le _, ?_⟩
    exact (endsWith_of_ambiguous hacquire hattempt hverdict hclear hattempt').imp_left
      fun ⟨t, hrun, _⟩ => ⟨t, hrun, trivial⟩

theorem evaluate_keeps_of_obliging (key : Text)
    (hlifetime : ∃ lifetime, r.lifetime.IsWhole lifetime) (hp : r.kind.Accepts p) :
    Act.Keeps (Keeps.Kept I a.RecordsAccepted) (a.evaluate r key p) :=
  PartsKeep.evaluate
    { acquire := Keeps.inWorld (henv.host.acquire (r.handle key) hlifetime).keeps
      clear := Keeps.inWorld (henv.host.clear (r.handle key) hlifetime).keeps
      observe := Keeps.inWorld
        ((returns_observe_of_obliging henv key hlifetime hp).mono fun _ _ h => h.2).keeps
      report := fun _ => Act.Keeps.within fun _ _ hs => hs
      statistics := fun _ _ hs => hs
      forget := fun _ hs => ⟨hs.1, hs.2.clear _⟩
      record := fun _ _ hu hs => ⟨hs.1, hs.2.append (hu ▸ hp)⟩ }

end Obliging

/-- What an evaluation needs of a session to come to its end. -/
structure Ready (a : Auditor σ) (I : σ → Prop) (moves : σ → σ → Prop) (w₀ : σ) (s : Session σ) :
    Prop where
  kept : Keeps.Kept I a.RecordsAccepted s
  tallied : ∃ entries, a.Tallied moves w₀ s entries

section Ready

variable (henv : a.environment.Obliging I moves w₀)

include henv

/-- An evaluation fails only if a strict log refuses a record or the average of a summary is
too large. -/
theorem Ready.evaluate_error (hs : a.Ready I moves w₀ s) (hr : r ∈ a.rules)
    (hlifetime : ∃ lifetime, r.lifetime.IsWhole lifetime) (hp : r.kind.Accepts p) {f : Fault}
    (h : (a.evaluate r key p).run s = (.error f, t)) :
    f = .unwritable ∧ s.log.isStrict = true ∨
      f = .quotientOverflow ∧ Statistics.capacity ≤ s.statistics.updates + 1 := by
  obtain ⟨entries, htallied⟩ := hs.tallied
  obtain ⟨v, -, hprevious, hends⟩ :=
    exists_endsWith henv key hr hlifetime hp hs.kept htallied.leads
  rcases hends with ⟨t', hok, -⟩ | ⟨f', t', herror, hcause⟩
  · cases hok.symm.trans h
  cases herror.symm.trans h
  refine hcause.imp_right fun ⟨hf, hlarge⟩ => ⟨hf, Nat.le_of_not_lt fun hsize => hlarge ?_⟩
  have htally := htallied.tally (Nat.lt_of_succ_lt hsize)
  exact ⟨htally.bounded, Nat.le_trans hprevious (htally.length_le _), hsize⟩

/-- An evaluation that returns has come to a verification that can be decided. -/
theorem Ready.complete (hs : a.Ready I moves w₀ s) (hr : r ∈ a.rules)
    (hlifetime : ∃ lifetime, r.lifetime.IsWhole lifetime) (hp : r.kind.Accepts p)
    {v : Verification} (h : (a.evaluate r key p).run s = (.ok v, t)) : v.Complete := by
  obtain ⟨entries, htallied⟩ := hs.tallied
  obtain ⟨v', hv, -, hends⟩ := exists_endsWith henv key hr hlifetime hp hs.kept htallied.leads
  rcases hends with ⟨t', hok, -⟩ | ⟨f, t', herror, -⟩
  · cases hok.symm.trans h
    exact hv
  · cases herror.symm.trans h

/-- The step: rules that are evaluated to their end leave what the next rule needs. -/
theorem Ready.judgeAll (hs : a.Ready I moves w₀ s)
    (hrules : ∀ r ∈ a.rules, ∃ lifetime, r.lifetime.IsWhole lifetime) {pairs : List (Rule × Json)}
    (hpairs : ∀ x ∈ pairs, x.1 ∈ a.rules ∧ x.1.kind.Accepts (.raw x.2)) {lines : List String}
    (h : (a.judgeAll key pairs).run s = (.ok lines, t)) :
    a.Ready I moves w₀ t ∧ t.log.isStrict = s.log.isStrict := by
  obtain ⟨entries, htallied⟩ := hs.tallied
  have hkept : Keeps.Kept I a.RecordsAccepted t :=
    (judgeAll_keeps (Session.lasting_core fun c => I c.1 ∧ a.RecordsAccepted c.2.1) fun x hx =>
      evaluate_keeps_of_obliging henv key (hrules _ (hpairs x hx).1) (hpairs x hx).2).of_run h
        hs.kept
  have hstrict : t.log.isStrict = s.log.isStrict :=
    (judgeAll_keeps (Session.lasting_isStrict s.log.isStrict) fun x _ =>
      evaluate_keeps_isStrict _ x.1 key _).of_run h rfl
  have hjudged := htallied.judgeAll key henv.steady hpairs
  rw [h] at hjudged
  exact ⟨⟨hkept, _, hjudged⟩, hstrict⟩

/-- A run against a host that answers, whatever comes of its events. -/
theorem Reachable.ready {config : Config} {log : Log}
    (hrules : ∀ r ∈ a.rules, ∃ lifetime, r.lifetime.IsWhole lifetime) (h₀ : I w₀)
    (hmoves : ∀ w w', moves w w' → I w → I w')
    (hs : a.Reachable moves (.start w₀ log .empty config) s) : a.Ready I moves w₀ s := by
  have hkept : a.KeptAnyhow fun c => I c.1 ∧ a.RecordsAccepted c.2.1 :=
    fun r hr key p hp => evaluate_keeps_of_obliging henv key (hrules r hr) hp
  obtain ⟨entries, hrecords⟩ := hs.records
  have hstart : Tally (Session.start w₀ log .empty config) [] :=
    ⟨rfl, Statistics.bounded_start _ _, fun _ => List.nil_suffix⟩
  exact ⟨hkept.reachable (fun w w' _ hmove hw => ⟨hmoves w w' hmove hw.1, hw.2⟩) hs
    ⟨h₀, recordsAccepted_empty⟩, entries, hrecords.tallied henv.steady hstart⟩

end Ready

/-! ## Events -/

/-- A verification that an accepted event comes to, after the rules before it. -/
structure Verifies (a : Auditor σ) (e : Event) (s : Session σ) (v : Verification) : Prop where
  reached : ∃ raws before raw after lines m t, a.prepare e = .ok raws ∧
    a.rules.zip raws = before ++ (v.rule, raw) :: after ∧
    (a.judgeAll e.key before).run { s with events := s.events + 1 } = (.ok lines, m) ∧
    (a.evaluate v.rule e.key (.raw raw)).run m = (.ok v, t)

/-- A number is too large for an accepted event to be processed to its end: for a record of a
strict log, for the line of a verification that does not hold, or for a summary. -/
inductive Oversized (a : Auditor σ) (e : Event) (s : Session σ) : Fault → Prop
  | log (strict : s.log.isStrict = true) : Oversized a e s .unwritable
  | line (v : Verification) (verifies : a.Verifies e s v) (fails : v.holds = .ok false)
      (long : ¬v.IsWritable) : Oversized a e s .unwritable
  | summary (full : Statistics.capacity ≤ s.statistics.updates + a.rules.length) :
      Oversized a e s .quotientOverflow

/-- What was judged for a rule was evaluated for it. -/
theorem rule_eq_of_run_evaluate {v : Verification}
    (h : (a.evaluate r key p).run s = (.ok v, t)) : v.rule = r := by
  cases evaluates_of_run h <;> rfl

/-- What a rule needs to come to its end is there when the rule is reached. -/
theorem Reaches.ready {e : Event} {before after : List (Rule × Json)} {raw : Json} {m : Session σ}
    (h : a.Reaches e s before r raw after m) (henv : a.environment.Obliging I moves w₀)
    (hrules : ∀ r ∈ a.rules, ∃ lifetime, r.lifetime.IsWhole lifetime)
    (hs : a.Ready I moves w₀ s) :
    a.Ready I moves w₀ m ∧ m.log.isStrict = s.log.isStrict := by
  obtain ⟨lines, hreached⟩ := h.reached
  have hcounted : a.Ready I moves w₀ { s with events := s.events + 1 } :=
    ⟨hs.kept, hs.tallied.imp fun _ h => h.of_core_eq rfl⟩
  obtain ⟨hm, hstrict⟩ := hcounted.judgeAll henv hrules h.before_accepts hreached
  exact ⟨hm, hstrict⟩

/-- An accepted event fails only if a number is too large. -/
theorem Ready.oversized {e : Event} {raws : List Json} {f : Fault} (hs : a.Ready I moves w₀ s)
    (henv : a.environment.Obliging I moves w₀)
    (hrules : ∀ r ∈ a.rules, ∃ lifetime, r.lifetime.IsWhole lifetime)
    (hraws : a.prepare e = .ok raws) (h : (a.process e).run s = (.error f, t)) :
    a.Oversized e s f := by
  obtain ⟨before, r, raw, after, m, hreaches, hfails⟩ := exists_reaches hraws h
  obtain ⟨hr, hp⟩ := hreaches.accepts
  obtain ⟨hm, hstrict⟩ := hreaches.ready henv hrules hs
  rcases hfails with hfailed | ⟨v, u, hevaluated, hjudgement⟩
  · rcases hm.evaluate_error henv hr (hrules r hr) hp hfailed with ⟨rfl, hlog⟩ | ⟨rfl, hfull⟩
    · exact .log (hstrict ▸ hlog)
    · exact .summary (Nat.le_trans hfull hreaches.updates_lt)
  · have hv := hm.complete henv hr (hrules r hr) hp hevaluated
    obtain ⟨rfl, hfails, hlong⟩ := run_judge_error hv hjudgement
    obtain rfl := rule_eq_of_run_evaluate hevaluated
    obtain ⟨raws', hraws', hzip⟩ := hreaches.accepted
    obtain ⟨lines, hreached⟩ := hreaches.reached
    exact .line v ⟨raws', before, raw, after, lines, m, u, hraws', hzip, hreached, hevaluated⟩
      hfails hlong

/-! ## Runs that are not broken off -/

end Auditor

/-- A store that can be reached answers every call, if it shares a clock that never goes backwards
with the verifier. -/
theorem Behaviour.obliging_onReadings {b : Behaviour} (hb : b ≠ unavailable)
    {readings : Nat → Int} (hmono : Monotone readings) (w₀ : Nat × Tables) :
    (b.onReadings readings).Obliging (OfTables Tables.Typed) (fun _ _ => False) w₀ where
  host := obliges hb fun _ => ⟨_, _, rfl⟩
  now := fun _ hw => ⟨_, _, rfl, hw⟩
  steady := steady_onReadings hmono (fun _ _ h => h.elim) _

end ExpiryAudit
