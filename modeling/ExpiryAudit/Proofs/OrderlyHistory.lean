import ExpiryAudit.Proofs.Failure
import ExpiryAudit.Proofs.SteadyClock

/-!
# Histories in order

Whatever comes of the events of a run, the updates in a slot were applied apart from each
other and all but the first of them quickly. The first one may be the update of a second
attempt, which is recorded without being judged again. With a steady clock the updates
are also in order.
-/
namespace ExpiryAudit

variable {σ : Type}

theorem Detector.clashes_eq_false_iff {d : Detector} {earlier later : Window} :
    d.clashes earlier later = false ↔ earlier.Apart d.lifetime later := by
  unfold clashes Window.Apart
  rw [Bool.and_eq_false_iff, decide_eq_false_iff_not, decide_eq_false_iff_not]
  omega

namespace Auditor

/-- The updates in a slot of a rule do not clash, only the first may be slow, and the rule
takes all of them. -/
structure Orderly (a : Auditor σ) (r : Rule) (updates : List Update) : Prop where
  apart : updates.Pairwise fun u v => u.window.Apart a.detector.lifetime v.window
  quick : ∀ u ∈ updates.tail, u.window.after < u.window.before + a.detector.lifetime
  accepted : ∀ u ∈ updates, r.kind.Accepts u.payload

/-- The updates are in order, and every reading of the clock from now on is after them. -/
structure InOrder (a : Auditor σ) (moves : σ → σ → Prop) (w : σ) (updates : List Update) :
    Prop where
  ordered : updates.Pairwise fun u v => u.window.after ≤ v.window.before
  passed : ∀ u ∈ updates, a.environment.Passed moves u.window.after w

section Updates

variable {a : Auditor σ} {moves : σ → σ → Prop} {r : Rule} {updates : List Update} {u : Update}
  {w w' : σ}

theorem orderly_nil : a.Orderly r [] where
  apart := .nil
  quick := fun _ h => nomatch h
  accepted := fun _ h => nomatch h

theorem orderly_singleton (hu : r.kind.Accepts u.payload) : a.Orderly r [u] where
  apart := List.pairwise_singleton _ _
  quick := fun _ h => nomatch h
  accepted := fun _ h => List.mem_singleton.1 h ▸ hu

/-- One more update that is unambiguous. -/
theorem Orderly.append (h : a.Orderly r updates) (hu : r.kind.Accepts u.payload)
    (hclean : a.detector.isAmbiguous u.window (windows updates) = false) :
    a.Orderly r (updates ++ [u]) := by
  obtain ⟨hquick, hapart⟩ := Detector.isAmbiguous_eq_false_iff.1 hclean
  refine ⟨List.pairwise_append.2 ⟨h.apart, List.pairwise_singleton _ _, ?_⟩, ?_, ?_⟩
  · intro q hq v hv
    cases List.mem_singleton.1 hv
    exact hapart _ (List.mem_map_of_mem hq)
  · intro q hq
    cases updates with
    | nil => cases hq
    | cons first rest =>
      rcases List.mem_append.1 hq with hq | hq
      · exact h.quick q hq
      · cases List.mem_singleton.1 hq
        exact hquick
  · intro q hq
    rcases List.mem_append.1 hq with hq | hq
    · exact h.accepted q hq
    · cases List.mem_singleton.1 hq
      exact hu

theorem inOrder_nil : a.InOrder moves w [] := ⟨.nil, fun _ h => nomatch h⟩

theorem InOrder.leads (h : a.InOrder moves w updates) (hw : a.environment.Leads moves w w') :
    a.InOrder moves w' updates := ⟨h.ordered, fun u hu => (h.passed u hu).leads hw⟩

/-- One more update that was applied since then. -/
theorem InOrder.append (h : a.InOrder moves w updates) {w₀ : σ}
    (hsteady : a.environment.Steady moves w₀) (hw₀ : a.environment.Leads moves w₀ w)
    {key : Text} {p : Payload} {o : Observation} (hu : a.Attempt r key p w w' o u) :
    a.InOrder moves w' (updates ++ [u]) := by
  obtain ⟨w₁, w₂, hbefore, hlead, hafter⟩ := Rule.readings_of_observe moves hu.observed
  obtain ⟨-, hubefore, huafter⟩ := Observation.update_eq_ok hu.update
  have hw₂ : a.environment.Leads moves w₀ w₂ :=
    (Act.Keeps.of_run (fun _ hw => .now hw) hbefore hw₀).trans hlead
  have hw' : a.environment.Leads moves w w' := Rule.leads_observe.of_run hu.observed .start
  refine ⟨List.pairwise_append.2 ⟨h.ordered, List.pairwise_singleton _ _, ?_⟩, ?_⟩
  · intro q hq v hv
    cases List.mem_singleton.1 hv
    rw [hubefore]
    exact h.passed q hq _ _ _ .start hbefore
  · intro q hq
    rcases List.mem_append.1 hq with hq | hq
    · exact (h.passed q hq).leads hw'
    · cases List.mem_singleton.1 hq
      rw [huafter]
      exact hsteady.passed hw₂ hafter

end Updates

/-! ## Runs -/

/-- The updates in all slots are in the order that they should be in. -/
structure Tidy (a : Auditor σ) (moves : σ → σ → Prop) (w₀ : σ)
    (c : σ × History × Statistics) : Prop where
  leads : a.environment.Leads moves w₀ c.1
  orderly : ∀ r ∈ a.rules, ∀ key, a.Orderly r (c.2.1.load ⟨key, r.id⟩)
  inOrder : a.environment.Steady moves w₀ → ∀ r ∈ a.rules, ∀ key,
    a.InOrder moves c.1 (c.2.1.load ⟨key, r.id⟩)

section Tidy

variable {a : Auditor σ} {moves : σ → σ → Prop} {w₀ : σ} {s t : Session σ} {r : Rule}
  {key : Text} {p : Payload}

/-- Nothing is recorded while the world moves on. -/
theorem Tidy.move {w : σ} {c : History × Statistics} (hs : a.Tidy moves w₀ (w, c)) {w' : σ}
    (hlead : a.environment.Leads moves w w') : a.Tidy moves w₀ (w', c) where
  leads := hs.leads.trans hlead
  orderly := hs.orderly
  inOrder := fun hsteady r hr key => (hs.inOrder hsteady r hr key).leads hlead

/-- A slot is forgotten. -/
theorem Tidy.clear {w : σ} {history : History} {statistics statistics' : Statistics}
    (hs : a.Tidy moves w₀ (w, history, statistics)) (slot : Slot) :
    a.Tidy moves w₀ (w, history.clear slot, statistics') where
  leads := hs.leads
  orderly := by
    intro r hr key
    rw [History.load_clear]
    split
    · exact orderly_nil
    · exact hs.orderly r hr key
  inOrder := by
    intro hsteady r hr key
    rw [History.load_clear]
    split
    · exact inOrder_nil
    · exact hs.inOrder hsteady r hr key

/-- An update is recorded. -/
theorem Tidy.record (hs : a.Tidy moves w₀ s.core) (hr : r ∈ a.rules) (hp : r.kind.Accepts p)
    {previous : List Update} {u : Update}
    (h : a.Recorded moves r key p s t previous u) : a.Tidy moves w₀ t.core := by
  obtain ⟨w, o, hlead, hattempt⟩ := h.attempt
  have hw := hs.leads.trans hlead
  have hlead' : a.environment.Leads moves s.world t.world :=
    hlead.trans (Rule.leads_observe.of_run hattempt.observed .start)
  have hu : r.kind.Accepts u.payload := h.payload ▸ hp
  refine ⟨hs.leads.trans hlead', fun r' hr' key' => ?_, fun hsteady r' hr' key' => ?_⟩
  · show a.Orderly r' (t.history.load _)
    rw [h.load]
    split
    · next hslot =>
      cases eq_of_id_eq hr' hr (congrArg Slot.name hslot)
      rcases h.unambiguous with rfl | ⟨rfl, hclean⟩
      · exact orderly_singleton hu
      · exact (hs.orderly r hr key).append hu hclean
    · exact hs.orderly r' hr' key'
  · show a.InOrder moves t.world (t.history.load _)
    rw [h.load]
    split
    · have hprevious : a.InOrder moves w previous := by
        rcases h.unambiguous with rfl | ⟨rfl, -⟩
        · exact inOrder_nil
        · exact (hs.inOrder hsteady r hr key).leads hlead
      exact hprevious.append hsteady hw hattempt
    · exact (hs.inOrder hsteady r' hr' key').leads hlead'

/-- The step: one evaluation, whether it returns or fails. -/
theorem tidy_keptAnyhow : a.KeptAnyhow (a.Tidy moves w₀) := by
  intro r hr key p hp s hs
  have hlead := leads_evaluate moves hr key hp s
  cases hrun : (a.evaluate r key p).run s with
  | mk result t =>
    rw [hrun] at hlead
    cases result with
    | ok v =>
      obtain ⟨u, hrecorded⟩ := (evaluates_of_run hrun).recorded moves
      exact hs.record hr hp hrecorded
    | error f =>
      show a.Tidy moves w₀ (t.world, t.history, t.statistics)
      rcases (fails_of_run hrun).history_eq with hhistory | ⟨-, hhistory⟩
      · rw [hhistory]
        exact ⟨hs.leads.trans hlead, hs.orderly, (hs.move hlead).inOrder⟩
      · rw [hhistory]
        exact (hs.move hlead).clear _

end Tidy

/-- What a run leaves in every slot, whatever its host and its clock do and whether its
events are processed to their end or not. No two updates clash, all but the first took
less than a lifetime, and all have payloads that the rule takes. If the clock never goes
backwards, each update ended before the next ones began. -/
theorem recorded_updates_in_order {rules : List Rule} {config : Config} {env : Environment σ}
    {a : Auditor σ} {moves : σ → σ → Prop} {w : σ} {log : Log} {s : Session σ}
    (ha : make rules config env = .ok a)
    (hs : a.Reachable moves (.start w log .empty config) s) {r : Rule} (hr : r ∈ rules)
    (key : Text) :
    let d : Detector := ⟨config.lifetime.amount, config.lifetime.amount_pos⟩
    let updates := s.history.load ⟨key, r.id⟩
    updates.Pairwise (fun u v => d.clashes u.window v.window = false) ∧
      (∀ u ∈ updates.tail, u.window.after - u.window.before < config.lifetime.amount) ∧
      (∀ u ∈ updates, r.kind.validate u.payload = .ok ()) ∧
      (env.Steady moves w → updates.Pairwise fun u v => u.window.after ≤ v.window.before) := by
  intro d updates
  obtain ⟨rfl, hlifetime, rfl⟩ := make_eq_ok ha
  have hstart : a.Tidy moves w (Session.start w log .empty config).core :=
    ⟨.start, fun _ _ _ => orderly_nil, fun _ _ _ _ => inOrder_nil⟩
  have htidy : a.Tidy moves w s.core := tidy_keptAnyhow.reachable
    (fun w w' _ hmove hw => hw.move (.move hmove .start)) hs hstart
  have horderly : a.Orderly r updates := htidy.orderly r hr key
  refine ⟨horderly.apart.imp fun h => ?_, fun u hu => ?_, horderly.accepted, fun hsteady => ?_⟩
  · rw [hlifetime] at h
    exact Detector.clashes_eq_false_iff.2 h
  · have hquick := horderly.quick u hu
    omega
  · exact (htidy.inOrder hsteady r hr key).ordered

/-- Two updates of a value, the second of them long after the first. -/
theorem recorded_updates_in_order_of_two_events :
    let config : Config := ⟨.ofInt 10 (by decide), .ofInt 1000 (by decide)⟩
    let r : Rule := ⟨.value, .whole (.ofInt 10 (by decide))⟩
    let e : Event := ⟨"k", .obj [("value", .int 3)], by decide⟩
    let readings : Nat → Int := fun n => if n < 5 then 0 else 100
    let env := Behaviour.faithful.onReadings readings
    let moves : Nat × Tables → Nat × Tables → Prop := fun _ _ => False
    let start : Session (Nat × Tables) := .start (0, .empty) .lenient .empty config
    env.Steady moves (0, .empty) ∧
      ∃ a, make [r] config env = .ok a ∧
        let s := ((a.process e).run ((a.process e).run start).2).2
        a.Reachable moves start s ∧ ∃ u v, s.history.load ⟨"k", r.id⟩ = [u, v] ∧
          Detector.clashes ⟨10, by decide⟩ u.window v.window = false ∧
          v.window.after - v.window.before < 10 ∧ u.window.after ≤ v.window.before := by
  intro config r e readings env moves start
  have hmono : Monotone readings := by
    intro i j hij
    show (if i < 5 then (0 : Int) else 100) ≤ if j < 5 then 0 else 100
    split <;> split <;> omega
  have hsteady : env.Steady moves (0, .empty) :=
    Behaviour.steady_onReadings hmono (fun _ _ h => h.elim) _
  obtain ⟨a, ha⟩ : ∃ a, make [r] config env = .ok a := ⟨_, rfl⟩
  have hlength : (match make [r] config env with
    | .ok a => ((a.process e).run ((a.process e).run start).2).2.history.load ⟨"k", r.id⟩
    | .error _ => []).length = 2 := by decide +kernel
  rw [ha] at hlength
  dsimp only at hlength
  have hs : a.Reachable moves start ((a.process e).run ((a.process e).run start).2).2 :=
    (Reachable.start.process e).process e
  obtain ⟨u, v, huv⟩ := List.length_eq_two.1 hlength
  obtain ⟨hclash, hquick, -, hordered⟩ :=
    recorded_updates_in_order ha hs List.mem_cons_self "k"
  rw [huv] at hclash hquick hordered
  exact ⟨hsteady, a, ha, hs, u, v, huv, (List.pairwise_cons.1 hclash).1 v List.mem_cons_self,
    hquick v List.mem_cons_self, (List.pairwise_cons.1 (hordered hsteady)).1 v List.mem_cons_self⟩

end Auditor
end ExpiryAudit
