import ExpiryAudit.Proofs.SavedHistory
import ExpiryAudit.Proofs.TracedHosts
import ExpiryAudit.Proofs.Writes

/-!
# What the check of a payload promises

A payload is checked before anything is done with it. What a rule then does with the payload
takes it apart once more: the application to a handle, both directions of the written form, and
the expectation of the map rule. All of them refuse the payloads that the check refuses, with
the same fault, and a refused payload leaves the handle alone.
-/
namespace ExpiryAudit

variable {η : Type}

/-- In states with a property, which they keep, the reads of the handle and the writes of its
kind return. A single value is missing or a whole number. -/
structure Handle.Answers (h : Handle) (host : Host η) (I : η → Prop) : Prop where
  read : Act.Returns I (host.read h) fun v s => (h.kind = .value → HandleKind.value.Holds v) ∧ I s
  write : ∀ c, c.kind = h.kind → Act.Returns I (host.write h c) fun _ => I

namespace Handle

/-- Since some calls, the handle was only read. -/
def OnlyRead (h : Handle) (earlier calls : List HostCall) : Prop :=
  ∃ reads, calls = earlier ++ reads ∧ ∀ call ∈ reads, call = .read h

theorem OnlyRead.refl (h : Handle) (calls : List HostCall) : h.OnlyRead calls calls :=
  ⟨[], (List.append_nil calls).symm, by simp⟩

theorem OnlyRead.read {h : Handle} {earlier calls : List HostCall} (hc : h.OnlyRead earlier calls) :
    h.OnlyRead earlier (calls ++ [.read h]) := by
  obtain ⟨reads, rfl, hreads⟩ := hc
  refine ⟨reads ++ [.read h], List.append_assoc _ _ _, fun call hcall => ?_⟩
  rcases List.mem_append.1 hcall with hcall | hcall
  · exact hreads call hcall
  · exact List.mem_singleton.1 hcall

end Handle

namespace Rule

variable {r : Rule} {p : Payload} {f : Fault}

/-- A refused payload is refused before the first call, whatever the host does. -/
theorem run_apply_of_refused (hp : r.kind.validate p = .error f) (host : Host η) (h : Handle)
    (s : η) : (r.apply host h p).run s = (.error f, s) := by
  have hlift : ∀ {α : Type} {x : Except Fault α} (rest : α → Act η Unit),
      (x >>= fun _ => Except.ok ()) = .error f →
        (Act.lift x >>= rest).run s = (.error f, s) := by
    intro α x rest hx
    refine Act.run_bind_error ?_
    rcases eq_error_of_bind_eq_error hx with hx | ⟨y, -, hy⟩
    · rw [hx, Act.run_lift]
    · cases hy
  unfold RuleKind.validate at hp
  unfold apply id
  cases hk : r.kind with
  | value | list | map | reducing =>
    rw [hk] at hp
    exact hlift _ hp

/-- An accepted payload is written once, and before the write the handle is only read. -/
theorem returns_apply_traced {h : Handle} {host : Host η} {I : η → Prop}
    (hkind : h.kind = r.kind.handleKind) (ha : h.Answers host I) (hp : r.kind.Accepts p)
    (earlier : List HostCall) :
    Act.Returns (fun s : η × List HostCall => I s.1 ∧ h.OnlyRead earlier s.2)
      (r.apply host.traced h p) fun _ s => I s.1 ∧ ∃ calls current,
        h.OnlyRead earlier calls ∧
          s.2 = calls ++ [.write h (r.kind.changeFrom current p)] := by
  refine returns_apply_of (V := fun _ => True) hp trivial ?_ ?_
  · rintro hk s ⟨hs, hcalls⟩
    obtain ⟨v, t, hrun, hv, ht⟩ := ha.read s.1 hs
    have hvalue : h.kind = .value := hkind.trans (congrArg RuleKind.handleKind hk)
    refine ⟨v, (t, s.2 ++ [.read h]), ?_, ⟨hv hvalue, trivial⟩, ht, hcalls.read⟩
    rw [Host.traced, Act.run_noting, hrun]
  · rintro current - s ⟨hs, hcalls⟩
    have hchange := (r.kind.kind_changeFrom current p).trans hkind.symm
    obtain ⟨⟨⟩, t, hrun, ht⟩ := ha.write _ hchange s.1 hs
    refine ⟨(), (t, s.2 ++ [.write h (r.kind.changeFrom current p)]), ?_, ht, s.2,
      current, hcalls, rfl⟩
    rw [Host.traced, Act.run_noting, hrun]

end Rule

/-! ## Verdicts -/

section Verdicts

variable {α β : Type}

/-- The fault of a result, or none. -/
def verdict (x : Except Fault α) : Except Fault Unit := x.map fun _ => ()

@[simp] theorem verdict_ok (y : α) : verdict (.ok y : Except Fault α) = .ok () := rfl

/-- What is done with a result and cannot fail does not change the verdict. -/
theorem verdict_bind {x : Except Fault α} {f : α → Except Fault β} (hf : ∀ y, ∃ z, f y = .ok z) :
    verdict (x >>= f) = verdict x := by
  cases x with
  | error e => rfl
  | ok y =>
    obtain ⟨z, hz⟩ := hf y
    rw [bind_eq_ok rfl hz, verdict_ok, verdict_ok]

/-- The verdict on a list is that on its first item without a result. -/
theorem verdict_mapM (f : α → Except Fault β) (xs : List α) :
    verdict (xs.mapM f) = forM xs fun x => verdict (f x) := by
  induction xs with
  | nil => rfl
  | cons x xs ih =>
    rw [List.mapM_cons, List.forM_cons, ← ih]
    cases f x with
    | error e => rfl
    | ok y => exact verdict_bind fun ys => ⟨_, rfl⟩

end Verdicts

/-! ## Both directions of the written form -/

namespace RuleKind

/-- The payload of a written form that may also be a tuple. -/
def decodePayload : RuleKind → Payload → Except Fault Payload
  | map, p => do
    let (name, n) ← p.mapEntry
    return .entry name n
  | _, p => .ok p

theorem decode_eq_decodePayload (k : RuleKind) (v : Json) : k.decode v = k.decodePayload (.raw v) := by
  cases k <;> rfl

variable {p : Payload}

/-- The map rule checks a payload by taking it apart. -/
theorem verdict_mapEntry : verdict p.mapEntry = map.validate p := by
  show verdict p.mapEntry = p.mapEntry >>= fun _ => .ok ()
  cases p.mapEntry <;> rfl

theorem verdict_encode_map : verdict (map.encode p) = map.validate p :=
  (verdict_bind fun _ => ⟨_, rfl⟩).trans verdict_mapEntry

theorem verdict_decodePayload_map : verdict (map.decodePayload p) = map.validate p :=
  (verdict_bind fun _ => ⟨_, rfl⟩).trans verdict_mapEntry

/-- What is decoded from the written form of a pair is the pair. -/
theorem Accepts.decode_encode_map (h : map.Accepts p) : ∃ name n,
    p.items? = some [.str name, .int n] ∧ map.encode p >>= map.decode = .ok (.entry name n) := by
  obtain ⟨name, n, hjson⟩ : ∃ name n, p.json = .arr [.str name, .int n] :=
    ⟨_, _, Payload.json_of_mapEntry h.mapEntry_eq_ok⟩
  refine ⟨name, n, ?_, bind_eq_ok h.encode_eq (hjson ▸ rfl)⟩
  cases p with
  | raw v =>
    obtain rfl : v = .arr [.str name, .int n] := hjson
    rfl
  | tuple items => exact congrArg some (Json.arr.inj hjson)

/-- What is written for a pair that was decoded is what it was decoded from. -/
theorem Accepts.encode_decode_map {v : Json} (h : map.Accepts (.raw v)) :
    map.decode v >>= map.encode = .ok v := by
  have hjson : v = .arr [.str _, .int _] := Payload.json_of_mapEntry h.mapEntry_eq_ok
  rw [hjson]
  rfl

end RuleKind

/-! ## The expectation of the map rule -/

namespace Rule

variable {r : Rule} {lifetime : Int}

theorem verdict_latestEntries (updates : List Update) :
    verdict (latestEntries updates) = forM updates fun u => RuleKind.map.validate u.payload := by
  have hentry : ∀ u : Update, verdict (do
      let (name, n) ← u.payload.mapEntry
      return (name, n, u.window)) = RuleKind.map.validate u.payload := fun u =>
    (verdict_bind fun _ => ⟨_, rfl⟩).trans RuleKind.verdict_mapEntry
  refine (verdict_bind fun _ => ⟨_, rfl⟩).trans ?_
  rw [verdict_mapM]
  exact congrArg (forM updates) (funext hentry)

/-- The expectation of a history fails exactly if the check of one of its payloads does, with the
fault of the first one. -/
theorem verdict_expected_map (hk : r.kind = .map) (hr : r.lifetime.IsWhole lifetime)
    (updates : List Update) (now : Int) :
    verdict (r.expected updates now) = forM updates fun u => RuleKind.map.validate u.payload := by
  have hkeep : ∀ latest : List (Text × (Int × Window)),
      ∃ kept, Lifetime.keep (fun e => r.lasts e.2.2 now) latest = .ok kept := by
    intro latest
    refine ⟨latest.filter fun e => e.2.2.lasts lifetime now, ?_⟩
    rw [← Lifetime.keep_ok]
    exact congrArg (Lifetime.keep · latest) (funext fun e => lasts_eq_ok hr e.2.2 now)
  rw [← verdict_latestEntries]
  unfold expected
  rw [hk]
  refine verdict_bind fun latest => ?_
  obtain ⟨kept, hkept⟩ := hkeep latest
  exact ⟨_, bind_eq_ok hkept rfl⟩

/-! ## Checks and applications -/

/-- An accepted payload is applied, if the handle answers. -/
theorem returns_apply_of_answers {h : Handle} {host : Host η} {I : η → Prop} {p : Payload}
    (hkind : h.kind = r.kind.handleKind) (ha : h.Answers host I) (hp : r.kind.Accepts p) :
    Act.Returns I (r.apply host h p) fun _ => I := by
  refine returns_apply_of (V := fun _ => True) hp trivial (fun hk => ha.read.mono ?_)
    fun current _ => ha.write _ ((r.kind.kind_changeFrom current p).trans hkind.symm)
  rintro v s ⟨hv, hs⟩
  exact ⟨⟨hv (hkind.trans (congrArg RuleKind.handleKind hk)), trivial⟩, hs⟩

/-- The check of a payload predicts what its application comes to. On a handle that answers, the
check fails exactly if the application does, with the same fault and without a call. Otherwise
one write is made, after reads at most. The map rule takes the same payloads, with the same
faults, when it encodes, decodes and expects, and what it encodes is what it decodes. -/
theorem validate_predicts_apply (r : Rule) {h : Handle} (hkind : h.kind = r.kind.handleKind)
    {host : Host η} {I : η → Prop} (ha : h.Answers host I) (p : Payload) {s : η} (hs : I s)
    (earlier : List HostCall) :
    ((∀ f, r.kind.validate p = .error f ↔
        ∃ t, (r.apply host h p).run s = (.error f, t)) ∧
      (∀ f, r.kind.validate p = .error f →
        (r.apply host.traced h p).run (s, earlier) = (.error f, s, earlier)) ∧
      (r.kind.Accepts p → ∃ t calls current, h.OnlyRead earlier calls ∧
        (r.apply host.traced h p).run (s, earlier) =
          (.ok (), t, calls ++ [.write h (r.kind.changeFrom current p)]))) ∧
    (∀ q, verdict (RuleKind.map.encode q) = RuleKind.map.validate q ∧
      verdict (RuleKind.map.decodePayload q) = RuleKind.map.validate q) ∧
    (∀ d, RuleKind.map.decode d = RuleKind.map.decodePayload (.raw d)) ∧
    (∀ m : Rule, m.kind = .map → ∀ amount, m.lifetime.IsWhole amount → ∀ updates now,
      verdict (m.expected updates now) =
        forM updates fun u => RuleKind.map.validate u.payload) ∧
    (∀ q, RuleKind.map.Accepts q → ∃ name n, q.items? = some [.str name, .int n] ∧
      RuleKind.map.encode q >>= RuleKind.map.decode = .ok (.entry name n)) ∧
    ∀ d, RuleKind.map.Accepts (.raw d) →
      RuleKind.map.decode d >>= RuleKind.map.encode = .ok d := by
  refine ⟨⟨fun f => ⟨fun hp => ⟨s, run_apply_of_refused hp _ _ s⟩, ?_⟩,
      fun f hp => run_apply_of_refused hp _ _ _, fun hp => ?_⟩,
    fun q => ⟨RuleKind.verdict_encode_map, RuleKind.verdict_decodePayload_map⟩,
    RuleKind.map.decode_eq_decodePayload,
    fun m hm amount hr updates now => verdict_expected_map hm hr updates now,
    fun q hq => hq.decode_encode_map, fun d hd => hd.encode_decode_map⟩
  · rintro ⟨t, hrun⟩
    cases hp : r.kind.validate p with
    | error e =>
      have hrefused := run_apply_of_refused hp host h s
      cases hrefused.symm.trans hrun
      rfl
    | ok u =>
      obtain ⟨x, t', hreturned, -⟩ := returns_apply_of_answers hkind ha hp s hs
      cases hreturned.symm.trans hrun
  · obtain ⟨⟨⟩, t, hrun, -, calls, current, hread, hcalls⟩ :=
      returns_apply_traced hkind ha hp earlier (s, earlier) ⟨hs, .refl _ _⟩
    exact ⟨t.1, calls, current, hread, by rw [hrun, ← hcalls]⟩

/-- A truth value is refused as an amount before the sum is read, and a number is added to the
sum by one write. -/
theorem validate_predicts_apply_of_scripted_sum :
    let r : Rule := ⟨.reducing, .whole Behaviour.ages⟩
    let h := r.handle "k"
    let s : Script := ⟨[], [], [], []⟩
    (∃ t, (r.apply Script.host h (.raw (.bool true))).run s =
      (.error (.amount "reducing" "bool"), t)) ∧
    (r.apply Script.host.traced h (.raw (.bool true))).run (s, []) =
      (.error (.amount "reducing" "bool"), s, []) ∧
    ∃ t calls current, h.OnlyRead [] calls ∧
      (r.apply Script.host.traced h (.raw (.int 5))).run (s, []) =
        (.ok (), t, calls ++ [.write h (RuleKind.reducing.changeFrom current (.raw (.int 5)))]) := by
  intro r h s
  have ha : (r.handle "k").Answers Script.host fun s => s.reads = [] ∧ s.writes = [] := by
    refine ⟨?_, ?_⟩
    · rintro ⟨reads, writes, clears, recent⟩ ⟨rfl, rfl⟩
      exact ⟨.null, _, rfl, fun _ => .inl rfl, rfl, rfl⟩
    · rintro c - ⟨reads, writes, clears, recent⟩ ⟨rfl, rfl⟩
      exact ⟨(), _, rfl, rfl, rfl⟩
  obtain ⟨⟨hiff, hfrom, -⟩, -⟩ :=
    validate_predicts_apply r (h := h) rfl ha (.raw (.bool true)) (s := s) ⟨rfl, rfl⟩ []
  obtain ⟨⟨-, -, hwritten⟩, -⟩ :=
    validate_predicts_apply r (h := h) rfl ha (.raw (.int 5)) (s := s) ⟨rfl, rfl⟩ []
  exact ⟨(hiff _).1 rfl, hfrom _ rfl, hwritten rfl⟩

end Rule
end ExpiryAudit
