import ExpiryAudit.Proofs.ObligingHosts

/-!
# Events are refused whole or applied whole

The payloads of an event are all looked at before anything is done. The first rule that
misses its payload or does not take it refuses the event, and nothing is touched. Any other
event is processed to its end against a host that answers, with a clock that never goes
backwards, unless a number is too large. Then every rule has recorded its payload.
-/
namespace ExpiryAudit

variable {σ : Type}

/-! ## Refusals -/

namespace RuleKind

/-- What is found for a rule lacks the form of its payloads: there is nothing, or for a map
something that is no pair. -/
def isMalformed (k : RuleKind) : Option Json → Bool
  | none => true
  | some (.arr [_, _]) => false
  | some _ => k == map

/-- How a rule refuses what is found for it in an event. -/
inductive Refuses (k : RuleKind) (key : Text) : Option Json → Fault → Prop
  | missing : Refuses k key none (.noUpdate key k.id)
  | notWhole {v : Json} (kind : k ≠ .map) (other : ∀ n, v ≠ .int n) :
      Refuses k key (some v) (.amount k.id v.kindName)
  | notPair {v : Json} (kind : k = .map) (other : ∀ x y, v ≠ .arr [x, y]) :
      Refuses k key (some v) (.notPair v.display)
  | notText {x y : Json} (kind : k = .map) (other : ∀ name, x ≠ .str name) :
      Refuses k key (some (.arr [x, y])) (.mapKey x.kindName)
  | notAmount {name : Text} {v : Json} (kind : k = .map) (other : ∀ n, v ≠ .int n) :
      Refuses k key (some (.arr [.str name, v])) (.amount k.id v.kindName)

variable {k : RuleKind} {key : Text} {f : Fault}

/-- A missing or malformed payload is a wrong value, any other one is of a wrong type. -/
theorem Refuses.kind_eq {found : Option Json} (h : k.Refuses key found f) :
    f.kind = if k.isMalformed found then .value else .type := by
  cases h with
  | missing => rfl
  | notWhole kind =>
    have hkind : (k == map) = false := beq_eq_false_iff_ne.2 kind
    unfold isMalformed
    split
    · contradiction
    · rfl
    · rw [hkind]
      rfl
  | notPair kind other =>
    subst kind
    unfold isMalformed
    split
    · rfl
    · next x y heq => exact absurd (Option.some.inj heq) (other x y)
    · rfl
  | notText => rfl
  | notAmount => rfl

theorem eq_arr_of_items? {v : Json} {items : List Json} (h : (Payload.raw v).items? = some items) :
    v = .arr items := by
  unfold Payload.items? at h
  split at h
  · next heq =>
    cases heq
    exact congrArg Json.arr (Option.some.inj h)
  · cases h
  · next heq => cases heq

theorem amount_eq_error {v : Json} {rule : Text} (h : (Payload.raw v).amount rule = .error f) :
    (∀ n, v ≠ .int n) ∧ f = .amount rule v.kindName := by
  unfold Payload.amount at h
  split at h
  · cases h
  · next hother =>
    cases h
    exact ⟨fun n hv => hother n (congrArg Payload.raw hv), rfl⟩

theorem refuses_of_mapEntry (key : Text) {v : Json} (h : (Payload.raw v).mapEntry = .error f) :
    map.Refuses key (some v) f := by
  unfold Payload.mapEntry at h
  split at h
  · next name x hitems =>
    obtain rfl : v = .arr [.str name, x] := eq_arr_of_items? hitems
    rcases eq_error_of_bind_eq_error h with hamount | ⟨_, -, h⟩
    · obtain ⟨hother, rfl⟩ := amount_eq_error hamount
      exact .notAmount rfl hother
    · cases h
  · next x y hother hitems =>
    obtain rfl : v = .arr [x, y] := eq_arr_of_items? hitems
    cases h
    exact .notText rfl fun name hname => hother name hname
  · next hother =>
    cases h
    refine .notPair rfl fun x y hv => ?_
    subst hv
    exact hother x y rfl

theorem refuses_of_validate (key : Text) {v : Json} (h : k.validate (.raw v) = .error f) :
    k.Refuses key (some v) f := by
  have hamount : k ≠ .map → ((Payload.raw v).amount k.id >>= fun _ => Except.ok ()) = .error f →
      k.Refuses key (some v) f := by
    intro hk h
    rcases eq_error_of_bind_eq_error h with h | ⟨_, -, h⟩
    · obtain ⟨hother, rfl⟩ := amount_eq_error h
      exact .notWhole hk hother
    · cases h
  cases k with
  | value | list | reducing => exact hamount (by decide) h
  | map =>
    rcases eq_error_of_bind_eq_error h with hentry | ⟨_, -, h⟩
    · exact refuses_of_mapEntry key hentry
    · cases h

end RuleKind

/-- The rule finds a payload that it takes. -/
def Rule.Finds (r : Rule) (updates : List (Text × Json)) : Prop :=
  ∃ raw, Named.find? updates r.id = some raw ∧ r.kind.Fits raw

namespace Auditor

/-- An event is refused by the first rule that does not take what it finds. -/
theorem exists_refuses {a : Auditor σ} {e : Event} {updates : List (Text × Json)} {f : Fault}
    (he : e.updates = .obj updates) (h : a.prepare e = .error f) :
    ∃ before r after, a.rules = before ++ r :: after ∧ (∀ q ∈ before, q.Finds updates) ∧
      r.kind.Refuses e.key (Named.find? updates r.id) f := by
  obtain ⟨before, r, after, hrules, hbefore, hr⟩ := mapM_eq_error_iff.1 h
  refine ⟨before, r, after, hrules, fun q hq => ?_, ?_⟩
  · obtain ⟨raw, hraw⟩ := hbefore q hq
    obtain ⟨found, hfound, hraw⟩ := eq_ok_of_bind_eq_ok hraw
    obtain ⟨⟨⟩, hvalid, -⟩ := eq_ok_of_bind_eq_ok hraw
    exact ⟨found, (Event.updateFor_eq_ok_iff he).1 hfound, RuleKind.accepts_iff_fits.1 hvalid⟩
  · rcases eq_error_of_bind_eq_error hr with hmissing | ⟨raw, hfound, hr⟩
    · simp only [Event.updateFor, he] at hmissing
      split at hmissing
      · cases hmissing
      · next hnone =>
        cases hmissing
        rw [hnone]
        exact .missing
    · rw [(Event.updateFor_eq_ok_iff he).1 hfound]
      rcases eq_error_of_bind_eq_error hr with hinvalid | ⟨_, -, hr⟩
      · exact RuleKind.refuses_of_validate e.key hinvalid
      · cases hr

/-! ## Events -/

variable {a : Auditor σ} {r : Rule} {key : Text} {s t : Session σ}

/-- One of the rules of an event that has been processed, between the others. -/
theorem run_judgeAll_split {before after : List (Rule × Json)} {raw : Json} {lines : List String}
    (h : (a.judgeAll key (before ++ (r, raw) :: after)).run s = (.ok lines, t)) :
    ∃ lines₁ m v m₁ line m₂ lines₂, (a.judgeAll key before).run s = (.ok lines₁, m) ∧
      (a.evaluate r key (.raw raw)).run m = (.ok v, m₁) ∧
      (judge v).run m₁ = (.ok line, m₂) ∧ (a.judgeAll key after).run m₂ = (.ok lines₂, t) := by
  induction before generalizing s lines with
  | nil =>
    obtain ⟨v, m₁, hevaluated, h⟩ := Act.run_bind_eq_ok h
    obtain ⟨line, m₂, hjudged, h⟩ := Act.run_bind_eq_ok h
    obtain ⟨lines₂, t', hafter, h⟩ := Act.run_bind_eq_ok h
    obtain ⟨-, rfl⟩ := Act.run_pure_eq_ok h
    exact ⟨[], s, v, m₁, line, m₂, lines₂, rfl, hevaluated, hjudged, hafter⟩
  | cons pair before ih =>
    obtain ⟨v, s₁, hevaluated, h⟩ := Act.run_bind_eq_ok h
    obtain ⟨line, s₂, hjudged, h⟩ := Act.run_bind_eq_ok h
    obtain ⟨others, s₃, hrest, h⟩ := Act.run_bind_eq_ok h
    obtain ⟨-, rfl⟩ := Act.run_pure_eq_ok h
    obtain ⟨lines₁, m, v', m₁, line', m₂, lines₂, hbefore, hrest⟩ := ih hrest
    refine ⟨line.toList ++ lines₁, m, v', m₁, line', m₂, lines₂, ?_, hrest⟩
    rw [judgeAll, Act.run_bind_ok hevaluated, Act.run_bind_ok hjudged, Act.run_bind_ok hbefore]
    rfl

/-- Rules that are evaluated to their end have each recorded their payload, after everything
that their slot held or after nothing. -/
theorem recorded_of_run_judgeAll {pairs : List (Rule × Json)} {lines : List String}
    (hnodup : (pairs.map (·.1.id)).Nodup) (h : (a.judgeAll key pairs).run s = (.ok lines, t))
    {raw : Json} (hmem : (r, raw) ∈ pairs) : ∃ u : Update, u.payload = .raw raw ∧
      (t.history.load ⟨key, r.id⟩ = s.history.load ⟨key, r.id⟩ ++ [u] ∨
        t.history.load ⟨key, r.id⟩ = [u]) := by
  obtain ⟨before, after, rfl⟩ := List.append_of_mem hmem
  obtain ⟨lines₁, m, v, m₁, line, m₂, lines₂, hbefore, hevaluated, hjudged, hafter⟩ :=
    run_judgeAll_split h
  rw [List.map_append, List.map_cons] at hnodup
  obtain ⟨hbeforeNodup, hrest, hapart⟩ := List.nodup_append.1 hnodup
  obtain ⟨hfresh, hafterNodup⟩ := List.nodup_cons.1 hrest
  -- The other rules have other names, so they leave the slot of the rule alone.
  have hm : m.history.load ⟨key, r.id⟩ = s.history.load ⟨key, r.id⟩ :=
    (advanced_of_run_judgeAll hbeforeNodup hbefore).elsewhere _ fun x hx hslot =>
      hapart _ (List.mem_map_of_mem hx) _ List.mem_cons_self (congrArg Slot.name hslot).symm
  have ht : t.history.load ⟨key, r.id⟩ = m₂.history.load ⟨key, r.id⟩ :=
    (advanced_of_run_judgeAll hafterNodup hafter).elsewhere _ fun x hx hslot =>
      hfresh (List.mem_map.2 ⟨x, hx, (congrArg Slot.name hslot).symm⟩)
  obtain ⟨u, hrecorded⟩ := (evaluates_of_run hevaluated).recorded fun _ _ => False
  have hcore := run_judge_core v m₁
  rw [hjudged] at hcore
  obtain ⟨hhistory, -⟩ := Prod.mk.inj (Prod.mk.inj hcore).2
  refine ⟨u, hrecorded.payload, ?_⟩
  rw [ht, hhistory, hrecorded.load, if_pos rfl, ← hm]
  rcases hrecorded.unambiguous with hnone | ⟨hall, -⟩
  · exact .inr (by rw [hnone, List.nil_append])
  · exact .inl (by rw [hall])

theorem recorded_of_run_process {e : Event} {raws : List Json} {lines : List String}
    (hraws : a.prepare e = .ok raws) (h : (a.process e).run s = (.ok lines, t)) {raw : Json}
    (hmem : (r, raw) ∈ a.rules.zip raws) : ∃ u : Update, u.payload = .raw raw ∧
      (t.history.load ⟨e.key, r.id⟩ = s.history.load ⟨e.key, r.id⟩ ++ [u] ∨
        t.history.load ⟨e.key, r.id⟩ = [u]) := by
  cases hjudged : (a.judgeAll e.key (a.rules.zip raws)).run { s with events := s.events + 1 } with
  | mk result t' =>
    obtain ⟨log, -, hrun⟩ := run_process_accepted hraws hjudged
    obtain ⟨rfl, rfl⟩ := Prod.mk.inj (hrun.symm.trans h)
    exact recorded_of_run_judgeAll (pairs_of_prepare hraws).2.1 hjudged hmem

/-- Whatever comes of an event, the histories of other keys are left alone. -/
theorem load_process_eq (a : Auditor σ) (e : Event) (s : Session σ) {slot : Slot}
    (hslot : slot.key ≠ e.key) :
    ((a.process e).run s).2.history.load slot = s.history.load slot := by
  refine process_keeps (Session.lasting_core fun c => c.2.1.load slot = s.history.load slot)
    (fun r _ p _ => ?_) s rfl
  have hother : slot ≠ ⟨e.key, r.id⟩ := fun h => hslot (congrArg Slot.key h)
  exact PartsKeep.evaluate
    { acquire := fun _ hs => hs
      clear := fun _ hs => hs
      observe := fun _ hs => hs
      report := fun _ => Act.Keeps.within fun _ _ hs => hs
      statistics := fun _ _ hs => hs
      forget := fun s hs => by
        show (s.history.clear _).load slot = _
        rw [History.load_clear, if_neg hother]
        exact hs
      record := fun s u _ hs => by
        show (s.history.append _ u).load slot = _
        rw [History.load_append, if_neg hother]
        exact hs }

/-- The payload that an accepted event has for a rule. -/
theorem exists_mem_zip_of_prepare {e : Event} {updates : List (Text × Json)} {raws : List Json}
    (he : e.updates = .obj updates) (hraws : a.prepare e = .ok raws) (hr : r ∈ a.rules) :
    ∃ raw, Named.find? updates r.id = some raw ∧ (r, raw) ∈ a.rules.zip raws := by
  rw [← (pairs_of_prepare hraws).1] at hr
  obtain ⟨⟨r, raw⟩, hmem, rfl⟩ := List.mem_map.1 hr
  obtain ⟨found, hfound, h⟩ := eq_ok_of_bind_eq_ok (List.forall₂_zip (mapM_eq_ok_iff.1 hraws) hmem)
  obtain ⟨_, -, h⟩ := eq_ok_of_bind_eq_ok h
  cases h
  exact ⟨raw, (Event.updateFor_eq_ok_iff he).1 hfound, hmem⟩

/-- Events are refused whole or applied whole. Take any session that a run from nothing comes to
against a store that drops what has expired, with which the verifier shares a clock that never
goes backwards, and any event. If some rule does not find a payload that it takes, the first
such rule refuses the event and the session is left as it was, with the world and the clock in
it. Otherwise the event is processed to its end, and the history of every rule has grown by
its payload or been reset to it, unless a number is too large. Histories of other keys are left
alone in any case. -/
theorem events_refused_or_applied {rules : List Rule} {config : Config} {readings : Nat → Int}
    {a : Auditor (Nat × Tables)} {n : Nat} {log : Log} {s : Session (Nat × Tables)} {e : Event}
    {updates : List (Text × Json)} (hmono : Monotone readings)
    (ha : make rules config (Behaviour.faithful.onReadings readings) = .ok a)
    (hrules : ∀ r ∈ rules, ∃ lifetime, r.lifetime.IsWhole lifetime)
    (hs : a.Reachable (fun _ _ => False) (.start (n, .empty) log .empty config) s)
    (he : e.updates = .obj updates) :
    ((¬∀ r ∈ rules, r.Finds updates) → ∃ before r after f,
      rules = before ++ r :: after ∧ (∀ q ∈ before, q.Finds updates) ∧
      r.kind.Refuses e.key (Named.find? updates r.id) f ∧
      (f.kind = if r.kind.isMalformed (Named.find? updates r.id) then .value else .type) ∧
      (a.process e).run s = (.error f, s)) ∧
    ((∀ r ∈ rules, r.Finds updates) →
      (∃ lines t, (a.process e).run s = (.ok lines, t) ∧
        ∀ r ∈ rules, ∃ raw u, Named.find? updates r.id = some raw ∧ u.payload = .raw raw ∧
          (t.history.load ⟨e.key, r.id⟩ = s.history.load ⟨e.key, r.id⟩ ++ [u] ∨
            t.history.load ⟨e.key, r.id⟩ = [u])) ∨
      ∃ f t, (a.process e).run s = (.error f, t) ∧ a.Oversized e s f) ∧
    ∀ slot, slot.key ≠ e.key →
      ((a.process e).run s).2.history.load slot = s.history.load slot := by
  obtain ⟨rfl, -, henvironment⟩ := make_eq_ok ha
  have henv : a.environment.Obliging (Behaviour.OfTables Tables.Typed) (fun _ _ => False)
      (n, .empty) := henvironment ▸ Behaviour.obliging_onReadings (by decide) hmono (n, .empty)
  have hready := hs.ready henv hrules Tables.typed_empty fun _ _ h => h.elim
  refine ⟨fun hrefused => ?_, fun haccepted => ?_, fun slot => load_process_eq a e s⟩
  · cases hraws : a.prepare e with
    | ok raws => exact absurd ((exists_prepare_iff he).1 ⟨raws, hraws⟩) hrefused
    | error f =>
      obtain ⟨before, r, after, hsplit, hbefore, hr⟩ := exists_refuses he hraws
      exact ⟨before, r, after, f, hsplit, hbefore, hr, hr.kind_eq, run_process_refused hraws s⟩
  · obtain ⟨raws, hraws⟩ := (exists_prepare_iff he).2 haccepted
    cases hrun : (a.process e).run s with
    | mk result t =>
      cases result with
      | error f => exact .inr ⟨f, t, rfl, hready.oversized henv hrules hraws hrun⟩
      | ok lines =>
        refine .inl ⟨lines, t, rfl, fun r hr => ?_⟩
        obtain ⟨raw, hfound, hmem⟩ := exists_mem_zip_of_prepare he hraws hr
        obtain ⟨u, hu, hhistory⟩ := recorded_of_run_process hraws hrun hmem
        exact ⟨raw, u, hfound, hu, hhistory⟩

/-- The second of two rules refuses a text, and nothing is touched for the first one. With whole
numbers both rules record. -/
theorem events_refused_or_applied_of_two_rules :
    let config : Config := ⟨.ofInt 10 (by decide), .ofInt 1000 (by decide)⟩
    let list : Rule := ⟨.list, .whole (.ofInt 10 (by decide))⟩
    let value : Rule := ⟨.value, .whole (.ofInt 10 (by decide))⟩
    let env := Behaviour.faithful.onReadings Int.ofNat
    let a : Auditor (Nat × Tables) := ⟨[list, value], ⟨10, by decide⟩, env, by decide⟩
    let s : Session (Nat × Tables) := .start (0, .empty) .lenient .empty config
    let wrong : Event := ⟨"k", .obj [("list", .int 3), ("value", .str "4")], by decide⟩
    let right : Event := ⟨"k", .obj [("list", .int 3), ("value", .int 4)], by decide⟩
    Monotone Int.ofNat ∧ make [list, value] config env = .ok a ∧
      (∀ r ∈ [list, value], ∃ lifetime, r.lifetime.IsWhole lifetime) ∧
      a.Reachable (fun _ _ => False) (.start (0, .empty) .lenient .empty config) s ∧
      (∃ f, f.kind = .type ∧ (a.process wrong).run s = (.error f, s)) ∧
      ∃ lines t u, (a.process right).run s = (.ok lines, t) ∧ u.payload = .raw (.int 4) ∧
        t.history.load ⟨"k", "value"⟩ = [u] := by
  intro config list value env a s wrong right
  have hmono : Monotone Int.ofNat := fun i j h => Int.ofNat_le.2 h
  have ha : make [list, value] config env = .ok a := rfl
  have hrules : ∀ r ∈ [list, value], ∃ lifetime, r.lifetime.IsWhole lifetime := by
    simp only [List.forall_mem_cons]
    exact ⟨⟨10, _, rfl, rfl⟩, ⟨10, _, rfl, rfl⟩, fun _ h => nomatch h⟩
  have hs : a.Reachable (fun _ _ => False) (.start (0, .empty) .lenient .empty config) s := .start
  have hvalue : value ∈ [list, value] := List.mem_cons_of_mem _ List.mem_cons_self
  refine ⟨hmono, ha, hrules, hs, ?_, ?_⟩
  · have hwrong : ¬∀ r ∈ [list, value], r.Finds [("list", .int 3), ("value", .str "4")] := by
      intro h
      obtain ⟨raw, hraw, n, rfl⟩ := h value hvalue
      cases hraw
    obtain ⟨-, -, -, f, -, -, -, -, hrun⟩ :=
      (events_refused_or_applied (e := wrong) hmono ha hrules hs rfl).1 hwrong
    have hfault : ((a.process wrong).run s).1 = .error (.amount "value" "str") := rfl
    rw [hrun] at hfault
    cases hfault
    exact ⟨_, rfl, hrun⟩
  · have hright : ∀ r ∈ [list, value], r.Finds [("list", .int 3), ("value", .int 4)] := by
      simp only [List.forall_mem_cons]
      exact ⟨⟨_, rfl, 3, rfl⟩, ⟨_, rfl, 4, rfl⟩, fun _ h => nomatch h⟩
    rcases (events_refused_or_applied (e := right) hmono ha hrules hs rfl).2.1 hright with
      ⟨lines, t, hrun, hrecorded⟩ | ⟨f, t, hrun, -⟩
    · obtain ⟨raw, u, hfound, hu, hhistory⟩ := hrecorded value hvalue
      cases hfound
      exact ⟨lines, t, u, hrun, hu, hhistory.elim id id⟩
    · have hreturned : ((a.process right).run s).1.isOk = true := by decide +kernel
      rw [hrun] at hreturned
      cases hreturned

/-- A number that is too large ends an accepted event after it was applied: the write of the
second attempt has expired when it is read again, and the line about this would end with an
instant of 4301 digits. -/
theorem accepted_event_not_returned :
    let config : Config := ⟨.ofInt 1 (by decide), .ofInt 1000 (by decide)⟩
    let value : Rule := ⟨.value, .whole (.ofInt 1 (by decide))⟩
    let readings : Nat → Int := fun i => (10 ^ 4300 - 9 + i : Nat)
    let env := Behaviour.faithful.onReadings readings
    let a : Auditor (Nat × Tables) := ⟨[value], ⟨1, by decide⟩, env, by decide⟩
    let s : Session (Nat × Tables) := .start (0, .empty) .lenient .empty config
    let e : Event := ⟨"k", .obj [("value", .int 1)], by decide⟩
    Monotone readings ∧ make [value] config env = .ok a ∧
      value.Finds [("value", .int 1)] ∧
      ∃ f t, (a.process e).run s = (.error f, t) ∧ f.kind = .value ∧
        (t.history.load ⟨"k", "value"⟩).length = 1 := by
  intro config value readings env a s e
  have hmono : ∀ k, Monotone fun i : Nat => ((k + i : Nat) : Int) :=
    fun k i j h => Int.ofNat_le.2 (Nat.add_le_add_left h k)
  refine ⟨hmono _, rfl, ⟨_, rfl, 1, rfl⟩, ?_⟩
  have hfails : (match ((a.process e).run s).1 with
    | .error f => f.kind == .value
    | .ok _ => false) = true := by decide +kernel
  have hlength : (((a.process e).run s).2.history.load ⟨"k", "value"⟩).length = 1 := by
    decide +kernel
  cases hrun : (a.process e).run s with
  | mk result t =>
    rw [hrun] at hfails hlength
    cases result with
    | ok lines => cases hfails
    | error f => exact ⟨f, t, rfl, eq_of_beq hfails, hlength⟩

end Auditor
end ExpiryAudit
