import ExpiryAudit.Proofs.Judgement
import ExpiryAudit.Proofs.Store

/-!
# Faulty writes

An evaluation without a line has seen its update applied exactly once, whatever host it
ran against. The two reads are not compared with each other but with expectations for
two instants; between these instants nothing expires, because the update was
unambiguous or is the first one after a reset.
-/
namespace ExpiryAudit

/-- A state with one update applied to it. -/
inductive AppliedOnce : RuleKind → Payload → Json → Json → Prop
  | value (n : Int) (before : Json) : AppliedOnce .value (.raw (.int n)) before (.int n)
  | list (n : Int) (items : List Json) :
      AppliedOnce .list (.raw (.int n)) (.arr items) (.arr (items ++ [.int n]))
  | map {p : Payload} {name : Text} {n : Int} (members : List (Text × Json)) :
      p.mapEntry = .ok (name, n) →
      AppliedOnce .map p (.obj members) (.obj (Named.insert name (.int n) members))
  | reducingFirst (n : Int) : AppliedOnce .reducing (.raw (.int n)) .null (.int n)
  | reducingNext {before : Json} {sum : Int} (n : Int) : before.whole? = some sum →
      AppliedOnce .reducing (.raw (.int n)) before (.int (sum + n))

section Reads

variable {lifetime : Int} {previous : List Update} {u : Update} {before after : Json}

theorem AppliedOnce.of_value (hpos : 0 < lifetime) (hu : RuleKind.value.Accepts u.payload)
    (hafter : HandleKind.value.Holds after)
    (hshown : RuleKind.value.Shows lifetime (previous ++ [u]) u.window.after after) :
    ∃ wanted, AppliedOnce .value u.payload before wanted ∧ after.agrees wanted := by
  have hint := hu.eq_int (by decide)
  refine ⟨.int u.payload.number, ?_, ?_⟩
  · rw [hint]
    exact .value _ _
  · rw [Json.agrees_iff_whole? hafter (.inr (Json.isWhole_int _))]
    have hwhole : after.whole? = Expected.value lifetime (previous ++ [u]) u.window.after := hshown
    rw [hwhole, Expected.value_append, if_pos (u.window.lasts_after hpos)]
    rfl

theorem AppliedOnce.of_list (hpos : 0 < lifetime) (hu : RuleKind.list.Accepts u.payload)
    (hsettled : ∀ p ∈ previous,
      p.window.lasts lifetime u.window.after = p.window.lasts lifetime u.window.before)
    (hbefore : HandleKind.list.Holds before) (hafter : HandleKind.list.Holds after)
    (hshownBefore : RuleKind.list.Shows lifetime previous u.window.before before)
    (hshownAfter : RuleKind.list.Shows lifetime (previous ++ [u]) u.window.after after) :
    ∃ wanted, AppliedOnce .list u.payload before wanted ∧ after.agrees wanted := by
  obtain ⟨items, rfl, hitems⟩ := hbefore
  obtain ⟨items', rfl, hitems'⟩ := hafter
  have hint := hu.eq_int (by decide)
  refine ⟨.arr (items ++ [.int u.payload.number]), ?_, ?_⟩
  · rw [hint]
    exact .list _ _
  · have happlied : ∀ x ∈ items ++ [Json.int u.payload.number], x.IsWhole := by
      intro x hx
      rcases List.mem_append.1 hx with hx | hx
      · exact hitems x hx
      · exact List.mem_singleton.1 hx ▸ Json.isWhole_int _
    have hkept : Expected.list lifetime previous u.window.after =
        Expected.list lifetime previous u.window.before := by
      exact congrArg (List.map _) (List.filter_congr hsettled)
    rw [Json.agrees_arr_iff hitems' happlied, hshownAfter items' rfl, Expected.list_append,
      if_pos (u.window.lasts_after hpos), hkept, List.map_append, List.map_append,
      hshownBefore items rfl]
    rfl

theorem AppliedOnce.of_map (hpos : 0 < lifetime) (hu : RuleKind.map.Accepts u.payload)
    (hsettled : ∀ p ∈ previous,
      p.window.lasts lifetime u.window.after = p.window.lasts lifetime u.window.before)
    (hbefore : HandleKind.map.Holds before) (hafter : HandleKind.map.Holds after)
    (hshownBefore : RuleKind.map.Shows lifetime previous u.window.before before)
    (hshownAfter : RuleKind.map.Shows lifetime (previous ++ [u]) u.window.after after) :
    ∃ wanted, AppliedOnce .map u.payload before wanted ∧ after.agrees wanted := by
  obtain ⟨members, rfl, hd, hmembers⟩ := hbefore
  obtain ⟨members', rfl, hd', hmembers'⟩ := hafter
  refine ⟨.obj (Named.insert u.payload.named.1 (.int u.payload.named.2) members),
    .map members hu.mapEntry_eq_ok, ?_⟩
  have happlied : ∀ m ∈ Named.insert u.payload.named.1 (Json.int u.payload.named.2) members,
      m.2.IsWhole := by
    intro m hm
    rcases Named.mem_insert hm with rfl | hm
    · exact Json.isWhole_int _
    · exact hmembers m hm
  have hseen : previous.map (Expected.seen lifetime u.window.after) =
      previous.map (Expected.seen lifetime u.window.before) :=
    List.map_congr_left fun p hp => congrArg (Prod.mk p.payload) (hsettled p hp)
  have hkept : ∀ name, Expected.entry lifetime previous u.window.after name =
      Expected.entry lifetime previous u.window.before name := by
    intro name
    rw [Expected.entry_eq_of_seen, hseen, ← Expected.entry_eq_of_seen]
  rw [Json.agrees_obj_iff hd' (hd.insert _ _) hmembers' happlied]
  intro name
  rw [Json.wholeAt_insert, hshownAfter members' rfl, hshownBefore members rfl,
    Expected.entry_append, hkept, if_pos (u.window.lasts_after hpos)]
  simp only [eq_comm]
  rfl

theorem AppliedOnce.of_reducing (hpos : 0 < lifetime) (hu : RuleKind.reducing.Accepts u.payload)
    (hbefore : HandleKind.value.Holds before) (hafter : HandleKind.value.Holds after)
    (hshownBefore : RuleKind.reducing.Shows lifetime previous u.window.before before)
    (hshownAfter : RuleKind.reducing.Shows lifetime (previous ++ [u]) u.window.after after) :
    ∃ wanted, AppliedOnce .reducing u.payload before wanted ∧ after.agrees wanted := by
  have hint := hu.eq_int (by decide)
  have hsum : before.whole? = Expected.sum lifetime previous u.window.before := hshownBefore
  have hwhole : after.whole? = Expected.sum lifetime (previous ++ [u]) u.window.after := hshownAfter
  rw [Expected.sum_append, if_pos (u.window.lasts_after hpos), ← hsum] at hwhole
  have hagrees : ∀ n, after.whole? = some n → after.agrees (.int n) := fun n hn =>
    (Json.agrees_iff_whole? hafter (.inr (Json.isWhole_int n))).2 hn
  rcases hbefore with rfl | hbefore
  · refine ⟨.int u.payload.number, ?_, hagrees _ ?_⟩
    · rw [hint]
      exact .reducingFirst _
    · rw [hwhole]
      exact congrArg some (Int.zero_add _)
  · obtain ⟨sum, hs⟩ := Option.isSome_iff_exists.1 hbefore
    refine ⟨.int (sum + u.payload.number), ?_, hagrees _ ?_⟩
    · rw [hint]
      exact .reducingNext _ hs
    · rw [hwhole, hs]
      rfl

/-- Reads that are as expected before and after an update differ by that update, provided
that nothing expires in between. -/
theorem AppliedOnce.of_shows {k : RuleKind} (hpos : 0 < lifetime) (hu : k.Accepts u.payload)
    (hsettled : ∀ p ∈ previous,
      p.window.lasts lifetime u.window.after = p.window.lasts lifetime u.window.before)
    (hbefore : k.handleKind.Holds before) (hafter : k.handleKind.Holds after)
    (hshownBefore : k.Shows lifetime previous u.window.before before)
    (hshownAfter : k.Shows lifetime (previous ++ [u]) u.window.after after) :
    ∃ wanted, AppliedOnce k u.payload before wanted ∧ after.agrees wanted := by
  cases k with
  | value => exact of_value hpos hu hafter hshownAfter
  | list => exact of_list hpos hu hsettled hbefore hafter hshownBefore hshownAfter
  | map => exact of_map hpos hu hsettled hbefore hafter hshownBefore hshownAfter
  | reducing => exact of_reducing hpos hu hbefore hafter hshownBefore hshownAfter

end Reads

namespace Auditor

variable {σ : Type} {a : Auditor σ} {r : Rule} {key : Text} {p : Payload} {s t : Session σ}
  {v : Verification}

/-- A verification that holds has seen its update applied exactly once. -/
theorem Evaluates.appliedOnce {moves : σ → σ → Prop} {w₀ : σ}
    (htyped : a.environment.Typed moves w₀) (hr : r ∈ a.rules)
    (hlifetime : r.lifetime.IsWhole a.detector.lifetime) (hp : r.kind.Accepts p)
    (hs : a.environment.Comes moves w₀ s.world) (hrecords : a.RecordsAccepted s.history)
    (h : a.Evaluates r key p s v t) (hholds : v.holds = .ok true) :
    ∃ before after wanted, v.observation.valueBefore = .plain before ∧
      v.observation.valueAfter = .plain after ∧ AppliedOnce r.kind p before wanted ∧
      after.agrees wanted := by
  obtain ⟨-, w', u', -, hattempt', -, hsettled⟩ := h.attempt (keeps_comes htyped.answers) hr hp hs
  obtain ⟨w, u, before, after, holds, -, hattempt, hpayload, hbefore, hafter, hkind, hkind',
    hverify, hiff⟩ := h.verified htyped hr hlifetime hp hs hrecords
  cases hattempt'.update.symm.trans hattempt.update
  obtain ⟨hshown, hshown'⟩ := hiff.1 (Except.ok.inj (hverify.symm.trans hholds))
  obtain ⟨wanted, happlied, hagrees⟩ := AppliedOnce.of_shows hlifetime.pos (hpayload.symm ▸ hp)
    hsettled hkind hkind' hshown hshown'
  exact ⟨before, after, wanted, hbefore, hafter, hpayload ▸ happlied, hagrees⟩

end Auditor

/-! ## A store that forgets -/

namespace Behaviour

variable {κ : Type} {hostClock clock : Act κ Int}

/-- A store that forgets single values never has one. -/
theorem forgetful_values {c : κ} {moves : κ × Tables → κ × Tables → Prop}
    (hmoves : ∀ w w', moves w w' → w'.2 = w.2) {w : κ × Tables}
    (hcomes : (forgetful.onClocks hostClock clock).Comes moves (c, .empty) w) (s : Slot) :
    w.2.values.get? s = none := by
  refine of_comes (Q := fun t => t.values.get? s = none) hcomes rfl ?_ ?_ ?_ hmoves
  · intro h t now v t' ht hread
    unfold Tables.readAt at hread
    cases hkind : h.kind with
    | value =>
      rw [hkind] at hread
      dsimp only at hread
      split at hread
      · cases hread
        exact ht
      · obtain ⟨isGone, -, hread⟩ := eq_ok_of_bind_eq_ok hread
        cases isGone with
        | false =>
          cases hread
          exact ht
        | true =>
          cases hread
          show (t.values.erase h.slot).get? s = none
          rw [SlotTable.get?_erase, ht, ite_self]
    | list =>
      rw [hkind] at hread
      obtain ⟨kept, -, hread⟩ := eq_ok_of_bind_eq_ok hread
      cases hread
      exact ht
    | map =>
      rw [hkind] at hread
      obtain ⟨kept, -, hread⟩ := eq_ok_of_bind_eq_ok hread
      cases hread
      exact ht
  · intro h c _ hforgets t now ht
    cases c with
    | replace v => cases hforgets
    | append n => exact ht
    | put name n => exact ht
  · intro h t ht
    unfold Tables.clear
    cases h.kind with
    | value =>
      show (t.values.erase h.slot).get? s = none
      rw [SlotTable.get?_erase, ht, ite_self]
    | list => exact ht
    | map => exact ht

/-- A store that forgets single values answers every read of one with nothing. -/
theorem forgetful_read {c : κ} {moves : κ × Tables → κ × Tables → Prop}
    (hmoves : ∀ w w', moves w w' → w'.2 = w.2) {w w' : κ × Tables}
    (hcomes : (forgetful.onClocks hostClock clock).Comes moves (c, .empty) w) {h : Handle}
    (hh : h.kind = .value) {v : Json}
    (hread : ((forgetful.onClocks hostClock clock).host.read h).run w = (.ok v, w')) : v = .null := by
  obtain ⟨now, -, hread⟩ := run_read_ok hread
  unfold Tables.readAt at hread
  rw [hh] at hread
  simp only [forgetful_values hmoves hcomes] at hread
  exact (Prod.mk.inj (Except.ok.inj hread)).1.symm

end Behaviour

/-- A correct store shows something after an update that has just been made. -/
theorem RuleKind.not_shows_null {k : RuleKind} (hk : k = .value ∨ k = .reducing) {lifetime : Int}
    (hpos : 0 < lifetime) (previous : List Update) (u : Update) :
    ¬k.Shows lifetime (previous ++ [u]) u.window.after .null := by
  rcases hk with rfl | rfl
  · intro h
    have hnone : none = Expected.value lifetime (previous ++ [u]) u.window.after := h
    rw [Expected.value_append, if_pos (u.window.lasts_after hpos)] at hnone
    cases hnone
  · intro h
    have hnone : none = Expected.sum lifetime (previous ++ [u]) u.window.after := h
    rw [Expected.sum_append, if_pos (u.window.lasts_after hpos)] at hnone
    cases hnone

/-- The verification of an update that a store forgets fails. -/
theorem Auditor.Evaluates.fails_of_forgetful {κ : Type} {hostClock clock : Act κ Int} {c : κ}
    {a : Auditor (κ × Tables)} (henv : a.environment = Behaviour.forgetful.onClocks hostClock clock)
    {moves : κ × Tables → κ × Tables → Prop} (hmoves : ∀ w w', moves w w' → w'.2 = w.2)
    {r : Rule} {key : Text} {p : Payload} {s t : Session (κ × Tables)} {v : Verification}
    (hr : r ∈ a.rules) (hk : r.kind = .value ∨ r.kind = .reducing)
    (hlifetime : r.lifetime.IsWhole a.detector.lifetime) (hp : r.kind.Accepts p)
    (hs : a.environment.Comes moves (c, .empty) s.world) (hrecords : a.RecordsAccepted s.history)
    (h : a.Evaluates r key p s v t) : v.holds = .ok false := by
  have htyped : a.environment.Typed moves (c, .empty) :=
    henv ▸ Behaviour.forgetful.typed_onClocks hostClock clock c hmoves
  obtain ⟨w, u, before, after, holds, hw, hattempt, -, -, hafter, -, -, hverify, hiff⟩ :=
    h.verified htyped hr hlifetime hp hs hrecords
  obtain ⟨-, after', -, hafter', -, -, w₃, w₄, hw₃, hread⟩ := hattempt.typed htyped hw
  have hnull : after' = .null := by
    have hhandle : (r.handle key).kind = .value := by
      rcases hk with hk | hk <;> exact congrArg RuleKind.handleKind hk
    rw [henv] at hw₃ hread
    exact Behaviour.forgetful_read hmoves hw₃ hhandle hread
  cases hafter.symm.trans hafter'
  cases holds with
  | false => exact hverify
  | true =>
    have hshown := (hiff.1 rfl).2
    rw [hnull] at hshown
    exact absurd hshown (RuleKind.not_shows_null hk hlifetime.pos _ _)

/-! ## Runs -/

namespace Auditor

variable {σ : Type}

/-- No faulty write passes unreported. Whatever host and clock do, an evaluation without a
line has seen its update applied exactly once. A store that forgets single values has a
line for every update of one and for every event and rule of that kind. -/
theorem faulty_writes_reported :
    (∀ {σ : Type} {rules : List Rule} {config : Config} {env : Environment σ} {a : Auditor σ}
        {moves : σ → σ → Prop} {w : σ} {log : Log} {s : Session σ} {e : Event},
      make rules config env = .ok a →
      (∀ r ∈ rules, r.lifetime.IsWhole config.lifetime.amount) →
      env.Typed moves w →
      a.Reachable moves (.start w log .empty config) s →
      ∀ x ∈ a.evaluations e s, x.line = none →
        ∃ before after wanted, x.verification.observation.valueBefore = .plain before ∧
          x.verification.observation.valueAfter = .plain after ∧
          AppliedOnce x.rule.kind x.payload before wanted ∧ after.agrees wanted) ∧
    (∀ {κ : Type} {rules : List Rule} {config : Config} {hostClock clock : Act κ Int}
        {a : Auditor (κ × Tables)} {moves : κ × Tables → κ × Tables → Prop} {c : κ} {log : Log}
        {s : Session (κ × Tables)} {e : Event},
      make rules config (Behaviour.forgetful.onClocks hostClock clock) = .ok a →
      (∀ r ∈ rules, r.lifetime.IsWhole config.lifetime.amount) →
      (∀ w w', moves w w' → w'.2 = w.2) →
      a.Reachable moves (.start (c, .empty) log .empty config) s →
      (∀ x ∈ a.evaluations e s, x.rule.kind = .value ∨ x.rule.kind = .reducing →
        x.line.isSome) ∧
      ∀ lines t, (a.process e).run s = (.ok lines, t) →
        ∀ r ∈ rules, r.kind = .value ∨ r.kind = .reducing →
          ∃ x ∈ a.evaluations e s, x.rule = r ∧ ∃ line ∈ lines, x.line = some line) := by
  constructor
  · intro σ rules config env a moves w log s e ha hrules htyped hs x hx hline
    obtain ⟨hof, hr, hlifetime, hp, hcomes, hrecords⟩ := of_reachable ha hrules htyped hs hx
    have htyped' : a.environment.Typed moves w := (make_eq_ok ha).2.2.symm ▸ htyped
    exact hof.evaluates.appliedOnce htyped' hr hlifetime hp hcomes hrecords
      (hof.line_eq_none_iff.1 hline)
  · intro κ rules config hostClock clock a moves c log s e ha hrules hmoves hs
    have htyped := Behaviour.forgetful.typed_onClocks hostClock clock c hmoves
    have hlines : ∀ x ∈ a.evaluations e s, x.rule.kind = .value ∨ x.rule.kind = .reducing →
        x.line.isSome := by
      intro x hx hk
      obtain ⟨hof, hr, hlifetime, hp, hcomes, hrecords⟩ := of_reachable ha hrules htyped hs hx
      exact hof.isSome_line_iff.2 (hof.evaluates.fails_of_forgetful (make_eq_ok ha).2.2 hmoves hr hk
        hlifetime hp hcomes hrecords)
    refine ⟨hlines, fun lines t hprocess r hr hk => ?_⟩
    obtain ⟨rfl, hrules', -⟩ := run_process_ok (P := fun _ _ => True) (fun _ _ _ _ _ => trivial)
      hprocess trivial
    have hmem : r ∈ (a.evaluations e s).map (·.rule) := by
      rw [hrules', (make_eq_ok ha).1]
      exact hr
    obtain ⟨x, hx, rfl⟩ := List.mem_map.1 hmem
    obtain ⟨line, hline⟩ := Option.isSome_iff_exists.1 (hlines x hx hk)
    exact ⟨x, hx, rfl, line, List.mem_filterMap.2 ⟨x, hx, hline⟩, hline⟩

/-- A value that is written and one that is forgotten. -/
theorem faulty_writes_reported_of_one_event :
    let config : Config := ⟨.ofInt 10 (by decide), .ofInt 1000 (by decide)⟩
    let rules : List Rule := [⟨.value, .whole (.ofInt 10 (by decide))⟩]
    let e : Event := ⟨"k", .obj [("value", .int 3)], by decide⟩
    let s : Session (TimeSource × Tables) :=
      .start (.stepping 0 1, .empty) .lenient .empty config
    (∃ a, make rules config (Behaviour.faithful.onClocks TimeSource.hostNow TimeSource.now) = .ok a ∧
      ∃ x ∈ a.evaluations e s, ∃ before after wanted,
        x.verification.observation.valueBefore = .plain before ∧
        x.verification.observation.valueAfter = .plain after ∧
        AppliedOnce x.rule.kind x.payload before wanted ∧ after.agrees wanted) ∧
    ∃ a, make rules config (Behaviour.forgetful.onClocks TimeSource.hostNow TimeSource.now) = .ok a ∧
      ∃ x ∈ a.evaluations e s, x.line.isSome := by
  intro config rules e s
  have hrules : ∀ r ∈ rules, r.lifetime.IsWhole config.lifetime.amount := by
    intro r hr
    cases List.mem_singleton.1 hr
    exact ⟨_, rfl, rfl⟩
  have hstart : ∀ a : Auditor (TimeSource × Tables),
      a.Reachable (fun w w' => w'.2 = w.2) s s := fun _ => .start
  constructor
  · obtain ⟨a, ha⟩ : ∃ a, make rules config
        (Behaviour.faithful.onClocks TimeSource.hostNow TimeSource.now) = .ok a := ⟨_, rfl⟩
    have hsome : (match make rules config
        (Behaviour.faithful.onClocks TimeSource.hostNow TimeSource.now) with
      | .ok a => (a.evaluations e s).any fun x => x.line.isNone
      | .error _ => false) = true := by decide +kernel
    rw [ha] at hsome
    obtain ⟨x, hx, hline⟩ := List.any_eq_true.1 hsome
    exact ⟨a, ha, x, hx, faulty_writes_reported.1 ha hrules
      (Behaviour.typed_onClocks _ _ _ _ fun _ _ h => h) (hstart a) x hx
      (Option.isNone_iff_eq_none.1 hline)⟩
  · obtain ⟨a, ha⟩ : ∃ a, make rules config
        (Behaviour.forgetful.onClocks TimeSource.hostNow TimeSource.now) = .ok a := ⟨_, rfl⟩
    have hsome : (match make rules config
        (Behaviour.forgetful.onClocks TimeSource.hostNow TimeSource.now) with
      | .ok a => (a.evaluations e s).any fun x => x.rule.kind == .value
      | .error _ => false) = true := by decide +kernel
    rw [ha] at hsome
    obtain ⟨x, hx, hkind⟩ := List.any_eq_true.1 hsome
    exact ⟨a, ha, x, hx, (faulty_writes_reported.2 ha hrules (fun _ _ h => h)
      (hstart a)).1 x hx (.inl (eq_of_beq hkind))⟩

end Auditor
end ExpiryAudit
