import ExpiryAudit.Proofs.Ambiguity
import ExpiryAudit.Proofs.World

/-!
# Judgements

Against a host whose reads are of the right kinds, a run records only payloads that its
rules take, no verification fails to be decided, and a verification holds exactly if
both reads are what a correct store may show.
-/
namespace ExpiryAudit

variable {σ : Type}

namespace Auditor

/-- Every recorded update has a payload that its rule takes. -/
def RecordsAccepted (a : Auditor σ) (h : History) : Prop :=
  ∀ r ∈ a.rules, ∀ key, ∀ u ∈ h.load ⟨key, r.id⟩, r.kind.Accepts u.payload

variable {a : Auditor σ}

theorem recordsAccepted_empty : a.RecordsAccepted .empty := fun _ _ _ _ h => nomatch h

theorem RecordsAccepted.clear {h : History} (ha : a.RecordsAccepted h) (s : Slot) :
    a.RecordsAccepted (h.clear s) := by
  intro r hr key u hu
  rw [History.load_clear] at hu
  split at hu
  · cases hu
  · exact ha r hr key u hu

theorem RecordsAccepted.append {h : History} (ha : a.RecordsAccepted h) {r : Rule} {key : Text}
    {u : Update} (hu : r.kind.Accepts u.payload) : a.RecordsAccepted (h.append ⟨key, r.id⟩ u) := by
  intro r' hr' key' u' hu'
  rw [History.load_append] at hu'
  split at hu'
  · next hslot =>
    have hkind : r'.kind = r.kind := RuleKind.id_injective (congrArg Slot.name hslot)
    rcases List.mem_append.1 hu' with hu' | hu'
    · exact ha r' hr' key' u' (hslot ▸ hu')
    · exact hkind ▸ List.mem_singleton.1 hu' ▸ hu
  · exact ha r' hr' key' u' hu'

/-- What a run against a host whose reads can be used keeps. -/
theorem keeps_comes {moves : σ → σ → Prop} {w₀ : σ} (hanswers : a.environment.Answers moves w₀) :
    a.Keeps (a.environment.Comes moves w₀) a.RecordsAccepted where
  acquire := fun h _ hw => .acquire h hw
  clear := fun h _ hw => .clear h hw
  observe := fun _ _ _ _ _ => Rule.keeps_observe hanswers
  forget := fun _ s h => h.clear s
  record := fun _ _ _ _ _ hu h => h.append hu

section Judged

variable {r : Rule} {key : Text} {p : Payload} {s t : Session σ} {v : Verification}

/-- Both reads of an attempt give values of the kind of the rule. -/
theorem Attempt.typed {moves : σ → σ → Prop} {w₀ w w' : σ} {o : Observation} {u : Update}
    (htyped : a.environment.Typed moves w₀) (hw : a.environment.Comes moves w₀ w)
    (h : a.Attempt r key p w w' o u) :
    ∃ before after, o.valueBefore = .plain before ∧ o.valueAfter = .plain after ∧
      r.kind.handleKind.Holds before ∧ r.kind.handleKind.Holds after ∧
      ∃ w₃ w₄, a.environment.Comes moves w₀ w₃ ∧
        (a.environment.host.read (r.handle key)).run w₃ = (.ok after, w₄) := by
  obtain ⟨w₁, w₂, w₃, w₄, hnow, hread, happly, hread', -, -⟩ := Rule.run_observe_ok h.observed
  have hclock : Act.Keeps (a.environment.Comes moves w₀) a.environment.now :=
    fun _ hw => Environment.Comes.now hw
  have hchange : Act.Keeps (a.environment.Comes moves w₀)
      (r.apply a.environment.host (r.handle key) p) := Rule.keeps_apply htyped.answers
  have hw₁ := hclock.of_run hnow hw
  have hw₂ := (Rule.keeps_read (r := r) (r.handle key)).of_run hread hw₁
  have hw₃ := hchange.of_run happly hw₂
  obtain ⟨before, -, hbefore, hplain⟩ := Rule.run_read_plain htyped hw₁ hread
  obtain ⟨after, hreturned, hafter, hplain'⟩ := Rule.run_read_plain htyped hw₃ hread'
  exact ⟨before, after, hplain, hplain', hbefore, hafter, w₃, w₄, hw₃, hreturned⟩

/-- What is judged is one attempt, after earlier updates that do not expire during it. -/
theorem Evaluates.attempt {I : σ → Prop} {P : History → Prop} (hkeeps : a.Keeps I P)
    (hr : r ∈ a.rules) (hp : r.kind.Accepts p) (hs : I s.world) (h : a.Evaluates r key p s v t) :
    v.rule = r ∧ ∃ w u, I w ∧ a.Attempt r key p w t.world v.observation u ∧
      (∀ q ∈ v.previous, q ∈ s.history.load ⟨key, r.id⟩) ∧
      ∀ q ∈ v.previous, q.window.lasts a.detector.lifetime u.window.after =
        q.window.lasts a.detector.lifetime u.window.before := by
  cases h with
  | @clean w₀ o u _ acquired attempt unambiguous history counted =>
    have hw₀ := hkeeps.acquire (r.handle key) _ hs
    rw [acquired] at hw₀
    refine ⟨rfl, w₀, u, hw₀, attempt, fun _ hq => hq, fun q hq => ?_⟩
    exact Detector.lasts_eq_of_isAmbiguous_eq_false unambiguous (List.mem_map_of_mem hq)
      u.window.before_le_after (Int.le_refl _)
  | @retried w₀ w₁ w₂ o₁ o₂ u₁ u₂ _ acquired first ambiguous cleared second history counted =>
    have hw₀ := hkeeps.acquire (r.handle key) _ hs
    rw [acquired] at hw₀
    have hw₁ := hkeeps.observe r hr key p hp _ hw₀
    rw [first.observed] at hw₁
    have hw₂ := hkeeps.clear (r.handle key) _ hw₁
    rw [cleared] at hw₂
    exact ⟨rfl, w₂, u₂, hw₂, second, fun _ hq => (nomatch hq), fun _ hq => (nomatch hq)⟩

/-- A verification does not fail, and holds exactly if both of its reads are what a
correct store may show. -/
theorem Evaluates.verified {moves : σ → σ → Prop} {w₀ : σ}
    (htyped : a.environment.Typed moves w₀) (hr : r ∈ a.rules)
    (hlifetime : r.lifetime.IsWhole a.detector.lifetime) (hp : r.kind.Accepts p)
    (hs : a.environment.Comes moves w₀ s.world) (hrecords : a.RecordsAccepted s.history)
    (h : a.Evaluates r key p s v t) :
    ∃ w u before after holds, a.environment.Comes moves w₀ w ∧
      a.Attempt r key p w t.world v.observation u ∧ u.payload = p ∧
      v.observation.valueBefore = .plain before ∧ v.observation.valueAfter = .plain after ∧
      r.kind.handleKind.Holds before ∧ r.kind.handleKind.Holds after ∧
      v.holds = .ok holds ∧ (holds = true ↔
        r.kind.Shows a.detector.lifetime v.previous u.window.before before ∧
        r.kind.Shows a.detector.lifetime (v.previous ++ [u]) u.window.after after) := by
  obtain ⟨rfl, w, u, hw, hattempt, hprevious, -⟩ := h.attempt (keeps_comes htyped.answers) hr hp hs
  obtain ⟨before, after, hbefore, hafter, hkind, hkind', -⟩ := hattempt.typed htyped hw
  obtain ⟨-, -, -, -, -, -, -, -, -, hpayload⟩ := Rule.run_observe_ok hattempt.observed
  obtain ⟨hupayload, hubefore, huafter⟩ := Observation.update_eq_ok hattempt.update
  have hpayload : u.payload = p := hupayload.trans hpayload
  obtain ⟨holds, hverify, hiff⟩ := Rule.verify_spec hlifetime
    (fun q hq => hrecords _ hr key q (hprevious q hq)) hattempt.update (hpayload.symm ▸ hp)
    hbefore hafter hkind hkind'
  rw [← hubefore, ← huafter] at hiff
  exact ⟨w, u, before, after, holds, hw, hattempt, hpayload, hbefore, hafter, hkind, hkind',
    hverify, hiff⟩

end Judged

/-! ## Runs -/

/-- What is known of an auditor that has been made. -/
theorem make_eq_ok {rules : List Rule} {config : Config} {env : Environment σ}
    (h : make rules config env = .ok a) :
    a.rules = rules ∧ a.detector.lifetime = config.lifetime.amount ∧ a.environment = env := by
  unfold make at h
  split at h
  · cases h
    exact ⟨rfl, rfl, rfl⟩
  · cases h

/-- What is known of the evaluations of a run against a host with reads of the right kind. -/
theorem of_reachable {rules : List Rule} {config : Config} {env : Environment σ} {a : Auditor σ}
    (ha : make rules config env = .ok a)
    (hrules : ∀ r ∈ rules, r.lifetime.IsWhole config.lifetime.amount)
    {moves : σ → σ → Prop} {w : σ} (htyped : env.Typed moves w) {log : Log} {s : Session σ}
    (hs : a.Reachable moves (Session.start w log .empty config) s) {e : Event} {x : Evaluation σ}
    (hx : x ∈ a.evaluations e s) :
    x.Of a ∧ x.rule ∈ a.rules ∧ x.rule.lifetime.IsWhole a.detector.lifetime ∧
      x.rule.kind.Accepts x.payload ∧ a.environment.Comes moves w x.start.world ∧
      a.RecordsAccepted x.start.history := by
  obtain ⟨hrulesEq, hlifetime, henv⟩ := make_eq_ok ha
  have hkeeps := keeps_comes (henv.symm ▸ htyped).answers
  have hkept := hkeeps.reachable (fun _ _ hmove hw => .move hmove hw) hs
    ⟨.start, recordsAccepted_empty⟩
  obtain ⟨hof, -, hr, hp, hcomes, hrecords⟩ :=
    of_mem_evaluations hkeeps.keptByEvaluations hkept hx
  exact ⟨hof, hr, hlifetime ▸ hrules _ (hrulesEq ▸ hr), hp, hcomes, hrecords⟩

end Auditor
end ExpiryAudit
