import ExpiryAudit.Proofs.Lockstep
import ExpiryAudit.Proofs.SavedHistory

/-!
# Lines that are events

A line is an event for some rules if it is an object with a key and with one payload for
every rule, which the rule takes. Any other line is refused before anything is done, and
the lines before it are processed as if they were alone.
-/
namespace ExpiryAudit

variable {σ : Type}

/-- The payload has the form that the rule takes. -/
def RuleKind.Fits : RuleKind → Json → Prop
  | map, raw => ∃ name n, raw = .arr [.str name, .int n]
  | _, raw => ∃ n, raw = .int n

/-- The line is an event for the rules. -/
def IsEventFor (rules : List Rule) (line : List Char) : Prop :=
  ∃ members key updates, Json.parse line = .ok (.obj members) ∧
    Named.find? members "key" = some (.str key) ∧ key ≠ "" ∧
    Named.find? members "updates" = some (.obj updates) ∧
    ∀ r ∈ rules, ∃ raw, Named.find? updates r.id = some raw ∧ r.kind.Fits raw

/-- Lines are blank or events for the rules. -/
def AreEventsFor (rules : List Rule) (lines : List (List Char)) : Prop :=
  ∀ line ∈ lines, line ≠ [] → IsEventFor rules line

/-- The line holds containers in more containers than can be read. -/
def NestsTooDeep (line : List Char) : Prop :=
  ∃ found container, Json.parse line = .error found ∧ found.problem = .nesting container

/-- How a line that is no event is refused. -/
inductive Fault.Refuses (number : Nat) (line : List Char) (f : Fault) : Prop
  /-- The number of the line is part of the message. -/
  | named (kind : f.kind = .value) (cause : Text)
      (message : f.message = "Invalid event on line " ++ toString number ++ ": " ++ cause)
  /-- The line holds containers in more containers than can be read. -/
  | nested (deep : NestsTooDeep line) (kind : f.kind = .nesting)

namespace RuleKind

variable {k : RuleKind}

theorem accepts_iff_fits {raw : Json} : k.Accepts (.raw raw) ↔ k.Fits raw := by
  constructor
  · intro h
    rcases h.json_eq with ⟨hk, hp⟩ | ⟨rfl, hjson⟩
    · obtain ⟨n, rfl⟩ : ∃ n, raw = .int n := ⟨_, Payload.raw.inj hp⟩
      cases k <;> first | exact absurd rfl hk | exact ⟨_, rfl⟩
    · exact ⟨_, _, hjson⟩
  · intro h
    cases k with
    | map =>
      obtain ⟨name, n, rfl⟩ := h
      rfl
    | value | list | reducing =>
      obtain ⟨n, rfl⟩ := h
      rfl

end RuleKind

/-! ## Faults of lines -/

theorem Payload.isRejection_of_amount {p : Payload} {rule : Text} {f : Fault}
    (h : p.amount rule = .error f) : f.isRejection = true := by
  unfold amount at h
  split at h <;> cases h
  rfl

/-- A payload is refused as a wrong value or as one of a wrong type. -/
theorem RuleKind.isRejection_of_validate {k : RuleKind} {p : Payload} {f : Fault}
    (h : k.validate p = .error f) : f.isRejection = true := by
  have hamount : (p.amount k.id >>= fun _ => Except.ok ()) = .error f → f.isRejection = true := by
    intro h
    rcases eq_error_of_bind_eq_error h with h | ⟨_, -, h⟩
    · exact Payload.isRejection_of_amount h
    · cases h
  cases k with
  | value | list | reducing => exact hamount h
  | map =>
    rcases eq_error_of_bind_eq_error h with h | ⟨_, -, h⟩
    · unfold Payload.mapEntry at h
      split at h
      · rcases eq_error_of_bind_eq_error h with h | ⟨_, -, h⟩
        · exact Payload.isRejection_of_amount h
        · cases h
      · cases h
        rfl
      · cases h
        rfl
    · cases h

theorem Json.isRejection_of_field {d : Json} {name : Text} {f : Fault}
    (h : d.field name = .error f) : f.isRejection = true := by
  cases d with
  | obj members =>
    simp only [field] at h
    split at h <;> cases h
    rfl
  | _ =>
    cases h
    rfl

theorem Event.isRejection_of_ofJson {d : Json} {f : Fault} (h : Event.ofJson d = .error f) :
    f.isRejection = true := by
  rcases eq_error_of_bind_eq_error h with h | ⟨updates, -, h⟩
  · exact Json.isRejection_of_field h
  · split at h
    · rcases eq_error_of_bind_eq_error h with h | ⟨key, -, h⟩
      · exact Json.isRejection_of_field h
      · unfold make at h
        split at h
        · split at h <;> cases h
          rfl
        · cases h
          rfl
    · cases h
      rfl

theorem Event.isRejection_of_updateFor {e : Event} {rule : Text} {f : Fault}
    (h : e.updateFor rule = .error f) : f.isRejection = true := by
  unfold updateFor at h
  split at h
  · split at h <;> cases h
    rfl
  · exact Json.isRejection_of_field h

theorem Json.field_eq_ok {d v : Json} {name : Text} (h : d.field name = .ok v) :
    ∃ members, d = .obj members ∧ Named.find? members name = some v := by
  cases d with
  | obj members =>
    simp only [field] at h
    split at h <;> cases h
    exact ⟨members, rfl, by assumption⟩
  | _ => cases h

theorem Event.ofJson_eq_ok_iff {d : Json} {e : Event} :
    Event.ofJson d = .ok e ↔ ∃ members updates, d = .obj members ∧
      Named.find? members "key" = some (.str e.key) ∧
      Named.find? members "updates" = some (.obj updates) ∧ e.updates = .obj updates := by
  constructor
  · intro h
    obtain ⟨updates, hupdates, h⟩ := eq_ok_of_bind_eq_ok h
    obtain ⟨members, rfl, hfind⟩ := Json.field_eq_ok hupdates
    split at h
    · next found =>
      obtain ⟨key, hkey, h⟩ := eq_ok_of_bind_eq_ok h
      obtain ⟨others, he, hfindKey⟩ := Json.field_eq_ok hkey
      cases he
      unfold make at h
      split at h
      · split at h <;> cases h
        exact ⟨members, found, rfl, hfindKey, hfind, rfl⟩
      · cases h
    · cases h
  · rintro ⟨members, updates, rfl, hkey, hupdates, he⟩
    obtain ⟨key, updates', hne⟩ := e
    cases he
    simp only [ofJson, Json.field, hupdates, hkey, bind, Except.bind, make, dif_neg hne]

theorem Event.updateFor_eq_ok_iff {e : Event} {updates : List (Text × Json)} {rule : Text}
    {raw : Json} (he : e.updates = .obj updates) :
    e.updateFor rule = .ok raw ↔ Named.find? updates rule = some raw := by
  simp only [updateFor, he]
  cases Named.find? updates rule <;> simp

namespace Auditor

variable {a : Auditor σ} {line : List Char}

theorem isRejection_of_prepare {e : Event} {f : Fault} (h : a.prepare e = .error f) :
    f.isRejection = true := by
  obtain ⟨r, -, h⟩ := exists_of_mapM_eq_error h
  rcases eq_error_of_bind_eq_error h with h | ⟨raw, -, h⟩
  · exact Event.isRejection_of_updateFor h
  rcases eq_error_of_bind_eq_error h with h | ⟨⟨⟩, -, h⟩
  · exact RuleKind.isRejection_of_validate h
  · cases h

/-- The fault of a line that is refused names the line, unless the line is nested too deep. -/
theorem refuses_atLine {f : Fault} (h : a.readEvent line = .error f) (number : Nat) :
    (atLine number f).Refuses number line := by
  have hnamed : f.isRejection = true → (atLine number f).Refuses number line := fun hf => by
    rw [atLine, if_pos hf]
    exact .named rfl f.message rfl
  rcases eq_error_of_bind_eq_error h with h | ⟨d, -, h⟩
  · cases hparse : Json.parse line with
    | ok d => rw [hparse] at h; cases h
    | error found =>
      rw [hparse] at h
      cases h
      cases hproblem : found.problem with
      | nesting container =>
        have hkind : (Fault.malformed found).kind = .nesting := by simp only [Fault.kind, hproblem]
        rw [atLine, if_neg (by simp [Fault.isRejection, hkind])]
        exact .nested ⟨found, container, hparse, hproblem⟩ hkind
      | _ => exact hnamed (by simp [Fault.isRejection, Fault.kind, hproblem])
  rcases eq_error_of_bind_eq_error h with h | ⟨e, -, h⟩
  · exact hnamed (Event.isRejection_of_ofJson h)
  rcases eq_error_of_bind_eq_error h with h | ⟨raws, -, h⟩
  · exact hnamed (isRejection_of_prepare h)
  · cases h

/-! ## Lines that are read -/

/-- An event is accepted exactly if every rule takes the payload that it finds. -/
theorem exists_prepare_iff {e : Event} {updates : List (Text × Json)}
    (he : e.updates = .obj updates) : (∃ raws, a.prepare e = .ok raws) ↔
      ∀ r ∈ a.rules, ∃ raw, Named.find? updates r.id = some raw ∧ r.kind.Fits raw := by
  constructor
  · rintro ⟨raws, hraws⟩ r hr
    obtain ⟨raw, hraw⟩ := exists_of_mapM_eq_ok hraws hr
    obtain ⟨found, hfound, hraw⟩ := eq_ok_of_bind_eq_ok hraw
    obtain ⟨⟨⟩, hvalid, -⟩ := eq_ok_of_bind_eq_ok hraw
    exact ⟨found, (Event.updateFor_eq_ok_iff he).1 hfound, RuleKind.accepts_iff_fits.1 hvalid⟩
  · intro h
    refine exists_mapM_eq_ok fun r hr => ?_
    obtain ⟨raw, hfound, hfits⟩ := h r hr
    have hvalid : r.kind.validate (.raw raw) = .ok () := RuleKind.accepts_iff_fits.2 hfits
    exact ⟨raw, by
      simp only [(Event.updateFor_eq_ok_iff he).2 hfound, hvalid, bind, Except.bind, pure,
        Except.pure]⟩

/-- A line is read exactly if it is an event for the rules. -/
theorem exists_readEvent_iff : (∃ e, a.readEvent line = .ok e) ↔ IsEventFor a.rules line := by
  constructor
  · rintro ⟨e, h⟩
    obtain ⟨d, hparse, h⟩ := eq_ok_of_bind_eq_ok h
    obtain ⟨e', he, h⟩ := eq_ok_of_bind_eq_ok h
    obtain ⟨raws, hraws, h⟩ := eq_ok_of_bind_eq_ok h
    cases h
    obtain ⟨members, updates, rfl, hkey, hupdates, hobj⟩ := Event.ofJson_eq_ok_iff.1 he
    have hread : Json.parse line = .ok (.obj members) := by
      cases hd : Json.parse line with
      | error found => rw [hd] at hparse; cases hparse
      | ok d => rw [hd] at hparse; exact congrArg Except.ok (Except.ok.inj hparse)
    exact ⟨members, e.key, updates, hread, hkey, e.key_ne_empty, hupdates,
      (exists_prepare_iff hobj).1 ⟨raws, hraws⟩⟩
  · rintro ⟨members, key, updates, hread, hkey, hne, hupdates, hall⟩
    have he : Event.ofJson (.obj members) = .ok ⟨key, .obj updates, hne⟩ :=
      Event.ofJson_eq_ok_iff.2 ⟨members, updates, rfl, hkey, hupdates, rfl⟩
    obtain ⟨raws, hraws⟩ := (exists_prepare_iff (a := a) (e := ⟨key, .obj updates, hne⟩) rfl).2 hall
    refine ⟨⟨key, .obj updates, hne⟩, ?_⟩
    simp only [readEvent, hread, Except.mapError, he, hraws, bind, Except.bind, pure, Except.pure]

theorem isSome_readEvent_iff :
    (a.readEvent line).toOption.isSome = true ↔ IsEventFor a.rules line := by
  rw [← exists_readEvent_iff, Option.isSome_iff_exists]
  exact exists_congr fun e => ⟨eq_ok_of_toOption_eq_some, fun h => by rw [h]; rfl⟩

/-- An event that has been read is accepted. -/
theorem exists_prepare_of_readEvent {e : Event} (h : a.readEvent line = .ok e) :
    ∃ raws, a.prepare e = .ok raws := by
  obtain ⟨d, -, h⟩ := eq_ok_of_bind_eq_ok h
  obtain ⟨e', -, h⟩ := eq_ok_of_bind_eq_ok h
  obtain ⟨raws, hraws, h⟩ := eq_ok_of_bind_eq_ok h
  cases h
  exact ⟨raws, hraws⟩

/-! ## Lines one after another -/

/-- The events of lines that are all blank or events. -/
theorem exists_events {lines : List (List Char)} (h : AreEventsFor a.rules lines) :
    ∃ events, (lines.filter fun l => !l.isEmpty).mapM a.readEvent = .ok events := by
  refine exists_mapM_eq_ok fun line hline => ?_
  obtain ⟨hline, hne⟩ := List.mem_filter.1 hline
  exact exists_readEvent_iff.2 (h line hline (by simpa using hne))

/-- Lines are processed as the events that are read from them. -/
theorem processLines_eq_processAll {lines : List (List Char)} {events : List Event}
    (h : (lines.filter fun l => !l.isEmpty).mapM a.readEvent = .ok events) (number : Nat) :
    a.processLines number lines = a.processAll events := by
  induction lines generalizing number events with
  | nil =>
    cases h
    rfl
  | cons line rest ih =>
    unfold processLines
    by_cases hblank : line.isEmpty
    · rw [List.filter_cons_of_neg (by simp [hblank])] at h
      rw [if_pos hblank]
      exact ih h _
    · rw [List.filter_cons_of_pos (by simp [hblank]), List.mapM_cons] at h
      obtain ⟨e, he, h⟩ := eq_ok_of_bind_eq_ok h
      obtain ⟨others, hothers, h⟩ := eq_ok_of_bind_eq_ok h
      cases h
      rw [if_neg hblank, he, processAll, ih hothers]
      rfl

theorem processLines_append (number : Nat) (lines others : List (List Char)) :
    a.processLines number (lines ++ others) = (do
      let found ← a.processLines number lines
      let more ← a.processLines (number + lines.length) others
      return found ++ more) := by
  induction lines generalizing number with
  | nil => simp [processLines]
  | cons line rest ih =>
    have hnumber : number + (rest.length + 1) = number + 1 + rest.length := by omega
    by_cases hblank : line.isEmpty
    · simp only [List.cons_append, processLines, hblank, if_true, ih, List.length_cons, hnumber]
    · simp only [List.cons_append, processLines, hblank, Bool.false_eq_true, if_false, ih,
        List.length_cons, hnumber, bind_assoc, pure_bind, List.append_assoc]

/-- A line that is refused ends the processing as soon as the lines before it have been
processed, and nothing of it is done. -/
theorem run_processLines_refused {before : List (List Char)} {events : List Event}
    (hevents : (before.filter fun l => !l.isEmpty).mapM a.readEvent = .ok events)
    (hline : line ≠ []) (hrefused : ¬IsEventFor a.rules line) {s t : Session σ}
    {result : Except Fault (List String)} (hrun : (a.processAll events).run s = (result, t))
    (number : Nat) (after : List (List Char)) :
    ∃ f, (a.processLines number (before ++ line :: after)).run s = (.error f, t) ∧
      match result with
      | .ok _ => f.Refuses (number + before.length) line
      | .error g => f = g := by
  rw [processLines_append, processLines_eq_processAll hevents]
  cases result with
  | error g => exact ⟨g, Act.run_bind_error hrun, rfl⟩
  | ok found =>
    cases hread : a.readEvent line with
    | ok e => exact absurd (exists_readEvent_iff.1 ⟨e, hread⟩) hrefused
    | error f =>
      refine ⟨_, ?_, refuses_atLine hread _⟩
      have hnonblank : ¬line.isEmpty := by simpa using hline
      rw [Act.run_bind_ok hrun, processLines, if_neg hnonblank, hread]
      rfl

end Auditor
end ExpiryAudit
