import ExpiryAudit.Proofs.EventLines
import ExpiryAudit.Proofs.Oversize
import ExpiryAudit.Proofs.Resumption

/-!
# Runs over lines that are refused

A run stops at the first line that is no event. It leaves the world as the events before that
line have left it, and writes no file. A run over lines that are all events returns, unless a
number is too large or a file cannot be written.
-/
namespace ExpiryAudit

variable {σ : Type}

/-! ## Checkpoints that runs have left -/

/-- There is no checkpoint under the path, or a run with the rules has saved it, whose own
checkpoint was such a one. -/
inductive LeftByRuns (rules : List Rule) : Files → String → Prop
  | missing {files : Files} {path : String} (absent : files.find? (.tidy path) = .ok none) :
      LeftByRuns rules files path
  | saved {τ : Type} {b : Batch} {env : Environment τ} {w w' : Workspace τ} {count : Nat}
      {files : Files} {path path' : String} (same : b.rules = rules)
      (checkpoint : b.checkpointPath = some path') (earlier : LeftByRuns rules w.files path')
      (returned : (b.run env).run w = (.ok count, w'))
      (kept : files.find? (.tidy path) = w'.files.find? (.tidy path')) :
      LeftByRuns rules files path

namespace Auditor

variable {a : Auditor σ}

theorem recordsAccepted_of_recordedBy {h : History}
    (hrecorded : h.RecordedBy (a.rules.map (·.kind))) : a.RecordsAccepted h := by
  intro r _ key u hu
  obtain ⟨k, -, hid, haccepts⟩ := hrecorded ⟨key, r.id⟩ u hu
  exact RuleKind.id_injective hid ▸ haccepts

end Auditor

/-- A checkpoint that runs have left is loaded, with payloads that the rules take. -/
theorem LeftByRuns.load_ok {rules : List Rule} {files : Files} {path : String}
    (h : LeftByRuns rules files path) : ∃ history,
      Checkpoint.load (rules.map (·.kind)) path files = .ok history ∧
        history.RecordedBy (rules.map (·.kind)) := by
  induction h with
  | missing absent => exact ⟨.empty, Batch.load_of_missing absent, fun _ _ hu => nomatch hu⟩
  | @saved τ b env w w' count files path path' same checkpoint earlier returned kept ih =>
    subst same
    obtain ⟨history, hload, hrecorded⟩ := ih
    rw [Batch.run_eq] at returned
    obtain ⟨⟨lines, s⟩, between, haudit, hconclude⟩ := Act.run_bind_eq_ok returned
    obtain ⟨history', a, log, path, content, hrestored, hmake, -, -, hprocess, -⟩ :=
      Batch.run_audit_ok haudit
    rw [Batch.restored_eq_load checkpoint] at hrestored
    cases hload.symm.trans hrestored
    obtain ⟨hrules, -, -⟩ := Auditor.make_eq_ok hmake
    obtain ⟨-, events, -, hall⟩ := Auditor.run_processContent_ok hprocess
    have hfinish : s.history.RecordedBy b.kinds := by
      rw [← hrules] at hrecorded
      have hall := Auditor.recordedBy_of_processAll hrecorded hall
      rwa [hrules] at hall
    obtain ⟨-, -, -, hsaved⟩ := Batch.run_conclude_ok hconclude
    obtain ⟨text, digest, hsave, hfile⟩ := hsaved path' checkpoint
    exact ⟨_, Checkpoint.load_of_saved hfinish.savable hsave (kept.trans hfile), hfinish.reread⟩

namespace Batch

variable {b : Batch} {env : Environment σ} {w : Workspace σ} {text : String}

/-- What a run over a text starts from: different rules with lifetimes in whole milliseconds, a
place for the lines, and no checkpoint but one that runs with the rules have left. -/
structure Prepared (b : Batch) (files : Files) (text : String) : Prop where
  nodup : (b.rules.map (·.id)).Nodup
  lifetimes : ∀ r ∈ b.rules, ∃ amount, r.lifetime.IsWhole amount
  events : ∃ path, b.events = some path ∧ files.read (.written path) = .ok (.text text)
  diagnostics : ∃ path, b.diagnostics = some path
  checkpoint : ∀ path, b.checkpointPath = some path → LeftByRuns b.rules files path

/-- The log of a run before its events, in which their files have been reported. -/
def openedLog (b : Batch) (log : Log) : Log :=
  { log with
    recent := .reading (shownPath b.events) ::
      ((b.checkpointPath.map .restoring).toList ++ log.recent) }

/-- The session from which a run processes its events. -/
def opened (b : Batch) (w : Workspace σ) (history : History) : Session σ :=
  Session.start w.world (b.openedLog w.log) history b.config

/-- The auditor of a run and the session from which it processes the events. -/
structure Starts (b : Batch) (env : Environment σ) (w : Workspace σ) (a : Auditor σ)
    (start : Session σ) : Prop where
  made : Auditor.make b.rules b.config env = .ok a
  restored : b.restored w.files = .ok start.history
  opened : start = b.opened w start.history

/-! ## The parts of a run -/

theorem processFile_text (a : Auditor σ) (text : String) :
    a.processFile (.text text) = a.processLines 1 (Text.lines text.toList) :=
  bind_pure _

/-- A run over a text begins with the processing of its lines. -/
theorem Starts.run_audit {a : Auditor σ} {start : Session σ} (h : b.Starts env w a start)
    {path : String} (hpath : b.events = some path)
    (hread : w.files.read (.written path) = .ok (.text text))
    {result : Except Fault (List String)} {s : Session σ}
    (hrun : (a.processLines 1 (Text.lines text.toList)).run start = (result, s)) :
    (b.audit env).run w =
      (result.map fun x => (x, s), { w with world := s.world, log := s.log }) := by
  let v : Workspace σ := { w with log := b.openedLog w.log }
  have hreport : (Workspace.report (.reading (shownPath b.events))).run { w with
      log := { w.log with recent := (b.checkpointPath.map .restoring).toList ++ w.log.recent } } =
      (.ok (), v) := Workspace.run_report _ rfl _
  have hfile : (Workspace.readFile path).run v = (.ok (.text text), v) := Prod.ext hread rfl
  rw [← processFile_text, h.opened] at hrun
  rw [audit, Act.run_bind_ok (run_restore h.restored), auditFrom,
    Act.run_bind_ok (by rw [h.made, Act.run_lift]), Act.run_bind_ok hreport, hpath,
    neededPath, Act.run_bind_ok (Act.run_lift _ _), Act.run_bind_ok hfile]
  exact Workspace.run_inSession hrun

/-- What the lines of a text fail with is what the run fails with. -/
theorem Starts.run_error {a : Auditor σ} {start : Session σ} (h : b.Starts env w a start)
    {path : String} (hpath : b.events = some path)
    (hread : w.files.read (.written path) = .ok (.text text)) {f : Fault} {s : Session σ}
    (hrun : (a.processLines 1 (Text.lines text.toList)).run start = (.error f, s)) :
    (b.run env).run w = (.error f, { w with world := s.world, log := s.log }) := by
  rw [run_eq]
  exact Act.run_bind_error (h.run_audit hpath hread hrun)

/-- A prepared run starts from payloads that its rules take. -/
theorem Prepared.starts (hb : b.Prepared w.files text) (env : Environment σ) :
    ∃ a start, b.Starts env w a start ∧ start.history.RecordedBy b.kinds := by
  obtain ⟨history, hrestored, hrecorded⟩ : ∃ history, b.restored w.files = .ok history ∧
      history.RecordedBy b.kinds := by
    cases hpath : b.checkpointPath with
    | none => exact ⟨.empty, by rw [restored, hpath], fun _ _ hu => nomatch hu⟩
    | some path =>
      rw [restored_eq_load hpath]
      exact (hb.checkpoint path hpath).load_ok
  exact ⟨_, b.opened w history, ⟨dif_pos hb.nodup, hrestored, rfl⟩, hrecorded⟩

/-- Lines or checkpoint cannot be put into their file. -/
inductive CannotWrite (b : Batch) (files : Files) (f : Fault) : Prop
  | lines {path text : String} {left : Files} (place : b.diagnostics = some path)
      (failed : (Files.write (.tidy path) text).run files = (.error f, left))
  | checkpoint {path text checkpoint saved : String} {between left : Files}
      (place : b.diagnostics = some path)
      (written : (Files.write (.tidy path) text).run files = (.ok (), between))
      (checkpointPlace : b.checkpointPath = some checkpoint)
      (failed : (Files.write (.tidy checkpoint) saved).run between = (.error f, left))

theorem eq_of_save_error {kinds : List RuleKind} {h : History} (hrecorded : h.RecordedBy kinds)
    {f : Fault} (hsave : Checkpoint.save kinds h = .error f) : f = .unwritable := by
  rcases eq_error_of_bind_eq_error hsave with hsave | ⟨members, -, hsave⟩
  · rcases eq_error_of_bind_eq_error hsave with hsave | ⟨_, -, hsave⟩
    · cases hrecorded.savable.toJson_eq.symm.trans hsave
    · cases hsave
  rcases eq_error_of_bind_eq_error hsave with hsave | ⟨_, -, hsave⟩
  · exact Json.eq_of_writable_error hsave
  · cases hsave

/-- What has been found can be written, unless a number is too large or a file is in the way. -/
theorem conclude_error {found : List String} {s : Session σ} {w' : Workspace σ} {f : Fault}
    (hdiagnostics : ∃ path, b.diagnostics = some path) (hrecorded : s.history.RecordedBy b.kinds)
    (h : (b.conclude found s).run w = (.error f, w')) : f.IsOversize ∨ b.CannotWrite w.files f := by
  obtain ⟨path, hpath⟩ := hdiagnostics
  rcases Act.run_bind_eq_error h with h | ⟨total, w₁, hlifted, h⟩
  · exact .inl (.inr (Statistics.eq_of_summary_error (congrArg Prod.fst h)))
  obtain ⟨-, rfl⟩ := Act.run_lift_eq_ok hlifted
  rw [Act.run_bind_ok (Workspace.run_report _ rfl _), hpath, neededPath,
    Act.run_bind_ok (Act.run_lift _ _)] at h
  rcases Act.run_bind_eq_error h with h | ⟨⟨⟩, w₂, hwritten, h⟩
  · obtain ⟨files, hwrite⟩ := Workspace.run_writeFile_error h
    exact .inr (.lines hpath hwrite)
  obtain ⟨between, hwrite, rfl⟩ := Workspace.run_writeFile_ok hwritten
  rw [Act.run_bind_ok (Workspace.run_report _ rfl _)] at h
  rcases Act.run_bind_eq_error h with h | ⟨⟨⟩, w₃, -, h⟩
  swap
  · cases h
  unfold save at h
  split at h
  · cases h
  next checkpoint hcheckpoint =>
  rcases Act.run_bind_eq_error h with h | ⟨⟨saved, digest⟩, w₃, hlifted, h⟩
  · exact .inl (.inl (eq_of_save_error hrecorded (congrArg Prod.fst h)))
  obtain ⟨-, rfl⟩ := Act.run_lift_eq_ok hlifted
  rcases Act.run_bind_eq_error h with h | ⟨⟨⟩, w₄, -, h⟩
  · obtain ⟨files, hfailed⟩ := Workspace.run_writeFile_error h
    exact .inr (.checkpoint hpath hwrite hcheckpoint hfailed)
  · rw [Workspace.run_report _ rfl] at h
    cases h

/-! ## Runs over texts -/

/-- What stops a run at a line that is no event, after the events before it: the line is refused
if those have been processed, and otherwise a number of theirs was too large. -/
inductive Stopped (number : Nat) (line : List Char) : Except Fault (List String) → Fault → Prop
  | refused {found : List String} {f : Fault} (refuses : f.Refuses number line) :
      Stopped number line (.ok found) f
  | oversize {f : Fault} (oversize : f.IsOversize) : Stopped number line (.error f) f

section Prepared

variable {a : Auditor σ} {start : Session σ} (hb : b.Prepared w.files text)
  (henv : env.Reliable (fun _ _ => False) w.world) (hstarts : b.Starts env w a start)
  (hrecorded : start.history.RecordedBy b.kinds)

include hb henv hstarts hrecorded

/-- A prepared run processes events to their end, unless a number is too large. -/
theorem Prepared.oversize_of_error {lines : List (List Char)} {events : List Event}
    (hevents : (lines.filter fun l => !l.isEmpty).mapM a.readEvent = .ok events) {f : Fault}
    {t : Session σ} (hrun : (a.processAll events).run start = (.error f, t)) : f.IsOversize := by
  obtain ⟨hrules, -, rfl⟩ := Auditor.make_eq_ok hstarts.made
  have hworld : start.world = w.world := by rw [hstarts.opened]; rfl
  have hsound : a.Sound (fun _ _ => False) w.world start := by
    rw [kinds, ← hrules] at hrecorded
    exact ⟨hworld ▸ .start, Auditor.recordsAccepted_of_recordedBy hrecorded⟩
  refine (Auditor.ends_processAll henv (hrules ▸ hb.lifetimes) fun e he => ?_).of_error hrun hsound
  obtain ⟨line, -, hread⟩ := exists_of_mem_mapM hevents he
  exact Auditor.exists_prepare_of_readEvent hread

theorem Prepared.stopped {before after : List (List Char)} {line : List Char}
    (htext : Text.lines text.toList = before ++ line :: after)
    (hbefore : AreEventsFor b.rules before) (hline : line ≠ [])
    (hrefused : ¬IsEventFor b.rules line) :
    ∃ events f w', (before.filter fun l => !l.isEmpty).mapM a.readEvent = .ok events ∧
      (b.run env).run w = (.error f, w') ∧
      w'.world = ((a.processAll events).run start).2.world ∧ w'.files = w.files ∧
      Stopped (before.length + 1) line ((a.processAll events).run start).1 f := by
  obtain ⟨hrules, -, -⟩ := Auditor.make_eq_ok hstarts.made
  obtain ⟨path, hpath, hread⟩ := hb.events
  obtain ⟨events, hevents⟩ := Auditor.exists_events (hrules.symm ▸ hbefore)
  cases hrun : (a.processAll events).run start with
  | mk result t =>
    obtain ⟨f, hstop, hfault⟩ := Auditor.run_processLines_refused hevents hline
      (hrules.symm ▸ hrefused) hrun 1 after
    rw [← htext] at hstop
    refine ⟨events, f, { w with world := t.world, log := t.log }, hevents,
      hstarts.run_error hpath hread hstop, by rw [hrun], rfl, ?_⟩
    rw [hrun]
    cases result with
    | ok found => exact .refused (Nat.add_comm 1 _ ▸ hfault)
    | error g =>
      cases hfault
      exact .oversize (hb.oversize_of_error henv hstarts hrecorded hevents hrun)

theorem Prepared.returned (hall : AreEventsFor b.rules (Text.lines text.toList)) :
    (∃ count w', (b.run env).run w = (.ok count, w')) ∨
      ∃ f w', (b.run env).run w = (.error f, w') ∧ (f.IsOversize ∨ b.CannotWrite w.files f) := by
  obtain ⟨hrules, -, -⟩ := Auditor.make_eq_ok hstarts.made
  obtain ⟨path, hpath, hread⟩ := hb.events
  obtain ⟨events, hevents⟩ := Auditor.exists_events (hrules.symm ▸ hall)
  cases hrun : (a.processAll events).run start with
  | mk result t =>
    have hlines := hrun
    rw [← Auditor.processLines_eq_processAll hevents 1] at hlines
    cases result with
    | error f =>
      exact .inr ⟨f, _, hstarts.run_error hpath hread hlines,
        .inl (hb.oversize_of_error henv hstarts hrecorded hevents hrun)⟩
    | ok found =>
      rw [run_eq, Act.run_bind_ok (hstarts.run_audit hpath hread hlines)]
      cases hconclude : (b.conclude found t).run { w with world := t.world, log := t.log } with
      | mk result w' =>
        cases result with
        | ok count => exact .inl ⟨count, w', rfl⟩
        | error f =>
          rw [kinds, ← hrules] at hrecorded
          have hfinish := Auditor.recordedBy_of_processAll hrecorded hrun
          rw [hrules] at hfinish
          exact .inr ⟨f, w', rfl, conclude_error (w := { w with world := t.world, log := t.log })
            hb.diagnostics hfinish hconclude⟩

end Prepared

/-- A run over a text stops at its first line that is no event: the world is left as the events
before that line have left it, and no file is written. A run over a text of events returns,
unless a number is too large or a file cannot be written. -/
theorem stops_at_refused_line (hb : b.Prepared w.files text)
    (henv : env.Reliable (fun _ _ => False) w.world) :
    ∃ a start, b.Starts env w a start ∧
      (∀ before line after, Text.lines text.toList = before ++ line :: after →
        AreEventsFor b.rules before → line ≠ [] → ¬IsEventFor b.rules line →
        ∃ events f w', (before.filter fun l => !l.isEmpty).mapM a.readEvent = .ok events ∧
          (b.run env).run w = (.error f, w') ∧
          w'.world = ((a.processAll events).run start).2.world ∧ w'.files = w.files ∧
          Stopped (before.length + 1) line ((a.processAll events).run start).1 f) ∧
      (AreEventsFor b.rules (Text.lines text.toList) →
        (∃ count w', (b.run env).run w = (.ok count, w')) ∨
        ∃ f w', (b.run env).run w = (.error f, w') ∧ (f.IsOversize ∨ b.CannotWrite w.files f)) := by
  obtain ⟨a, start, hstarts, hrecorded⟩ := hb.starts env
  exact ⟨a, start, hstarts, fun _ _ _ => hb.stopped henv hstarts hrecorded,
    hb.returned henv hstarts hrecorded⟩

/-- A blank line, an event, and a line that is no event and stops the run. -/
theorem stops_at_refused_line_after_event :
    let config : Config := ⟨.ofInt 10 (by decide), .ofInt 1000 (by decide)⟩
    let rules : List Rule := [⟨.value, .whole (.ofInt 10 (by decide))⟩]
    let b : Batch := ⟨some "a", some "lines", some "saved", rules, config⟩
    let event := "\x7b\"key\": \"k\", \"updates\": \x7b\"value\": 3\x7d\x7d"
    let text := "\n" ++ event ++ "\nnone\n" ++ event
    let env := Behaviour.everlasting.onReadings fun n => n
    let w : Workspace (Nat × Tables) :=
      ⟨(0, .empty), ⟨["work"], [(["work", "a"], .file (.text text))]⟩, .lenient⟩
    b.Prepared w.files text ∧ env.Reliable (fun _ _ => False) w.world ∧
      AreEventsFor rules [[], event.toList] ∧ ¬IsEventFor rules "none".toList ∧
      ∃ f w', (b.run env).run w = (.error f, w') ∧ f.Refuses 3 "none".toList ∧
        w'.files = w.files ∧ w'.world.1 = 5 := by
  intro config rules b event text env w
  have hprepared : b.Prepared w.files text :=
    { nodup := by decide
      lifetimes := fun r hr => ⟨10, by
        rw [List.mem_singleton.1 hr]
        exact ⟨_, rfl, rfl⟩⟩
      events := ⟨"a", rfl, rfl⟩
      diagnostics := ⟨"lines", rfl⟩
      checkpoint := fun path hpath => by
        obtain rfl : "saved" = path := Option.some.inj hpath
        exact .missing rfl }
  have hreliable : env.Reliable (fun _ _ => False) w.world :=
    Behaviour.reliable_everlasting (fun _ _ h => Int.ofNat_le.2 h) 0
  let a : Auditor (Nat × Tables) := ⟨rules, ⟨10, by decide⟩, env, by decide⟩
  have hlines : Text.lines text.toList = [[], event.toList] ++ "none".toList :: [event.toList] := by
    decide +kernel
  have hevents : ∀ l, (a.readEvent l).toOption.isSome = true ↔ IsEventFor rules l := fun l =>
    Auditor.isSome_readEvent_iff
  have hbefore : AreEventsFor rules [[], event.toList] := by
    intro l hl hne
    rcases List.mem_pair.1 hl with rfl | rfl
    · exact absurd rfl hne
    · exact (hevents _).1 (by decide +kernel)
  have hrefused : ¬IsEventFor rules "none".toList := fun h =>
    absurd ((hevents _).2 h) (by decide +kernel)
  obtain ⟨a', start, -, hstops, -⟩ := stops_at_refused_line hprepared hreliable
  obtain ⟨events, f, w', -, hrun, -, hfiles, hstopped⟩ :=
    hstops _ _ _ hlines hbefore (by decide) hrefused
  have hlarge : (match ((b.run env).run w).1 with
      | .error f => decide (f.message = Fault.unwritable.message ∨
          f.message = Fault.quotientOverflow.message)
      | .ok _ => true) = false := by decide +kernel
  have hreadings : ((b.run env).run w).2.world.1 = 5 := by decide +kernel
  rw [hrun] at hlarge hreadings
  refine ⟨hprepared, hreliable, hbefore, hrefused, f, w', hrun, ?_, hfiles, hreadings⟩
  generalize ((a'.processAll events).run start).1 = result at hstopped
  cases hstopped with
  | refused refuses => exact refuses
  | oversize oversize =>
    refine absurd ?_ (of_decide_eq_false hlarge)
    exact oversize.imp (congrArg Fault.message) (congrArg Fault.message)

/-- A run can fail without naming a line: at a line that is nested too deep, in the report of an
instant that has too many digits, and at a directory in the place of the lines. -/
theorem fails_without_naming_line :
    let config : Config := ⟨.ofInt 10 (by decide), .ofInt 1000 (by decide)⟩
    let rules : List Rule := [⟨.value, .whole (.ofInt 10 (by decide))⟩]
    let b : Batch := ⟨some "a", some "lines", none, rules, config⟩
    let env := Behaviour.forgetful.environment
    let nested := String.ofList (List.replicate 1000 '[')
    let event := "\x7b\"key\": \"k\", \"updates\": \x7b\"value\": 1\x7d\x7d"
    let space (text : String) (more : List (Location × Node)) (time : Int) :
        Workspace (TimeSource × Tables) :=
      ⟨(.stepping time 1, .empty), ⟨["work"], (["work", "a"], .file (.text text)) :: more⟩,
        .lenient⟩
    (¬AreEventsFor rules (Text.lines nested.toList) ∧
      ∃ f w', (b.run env).run (space nested [] 0) = (.error f, w') ∧ f.kind = .nesting) ∧
    AreEventsFor rules (Text.lines event.toList) ∧
      (∃ f w', (b.run env).run (space event [] (10 ^ 4300 - 1)) = (.error f, w') ∧
        f.message = Text.unwritableMessage) ∧
      ∃ f w', (b.run env).run (space event [(["work", "lines"], .directory)] 0) = (.error f, w') ∧
        f.kind = .file .isDirectory := by
  intro config rules b env nested event space
  let a : Auditor (TimeSource × Tables) := ⟨rules, ⟨10, by decide⟩, env, by decide⟩
  have hevents : ∀ l, (a.readEvent l).toOption.isSome = true ↔ IsEventFor rules l := fun l =>
    Auditor.isSome_readEvent_iff
  have hnested : nested.toList = List.replicate 1000 '[' := String.toList_ofList
  have hlines : Text.lines (List.replicate 1000 '[') = [List.replicate 1000 '['] := by
    decide +kernel
  refine ⟨⟨fun hall => ?_, ?_⟩, fun l hl _ => ?_, ?_, ?_⟩
  · rw [hnested, hlines] at hall
    exact absurd ((hevents _).2 (hall _ List.mem_cons_self (List.cons_ne_nil _ _)))
      (by decide +kernel)
  · let start : Session (TimeSource × Tables) := b.opened (space "" [] 0) .empty
    have hstarts : ∀ text, b.Starts env (space text [] 0) a start := fun _ => ⟨rfl, rfl, rfl⟩
    have hread : ∀ text, (space text [] 0).files.read (.written "a") = .ok (.text text) :=
      fun _ => rfl
    obtain ⟨f, s, hrun, hkind⟩ := @exists_error_of_any _ _
      ((a.processLines 1 [List.replicate 1000 '[']).run start) (fun f => f.kind = .nesting)
      (by decide +kernel)
    rw [← hlines, ← hnested] at hrun
    exact ⟨f, _, (hstarts nested).run_error rfl (hread nested) hrun, of_decide_eq_true hkind⟩
  · have hall :
        ((Text.lines event.toList).all fun l => (a.readEvent l).toOption.isSome) = true := by
      decide +kernel
    exact (hevents l).1 (List.all_eq_true.1 hall l hl)
  · obtain ⟨f, w', hrun, hmessage⟩ := @exists_error_of_any _ _
      ((b.run env).run (space event [] (10 ^ 4300 - 1)))
      (fun f => f.message = Text.unwritableMessage) (by decide +kernel)
    exact ⟨f, w', hrun, of_decide_eq_true hmessage⟩
  · obtain ⟨f, w', hrun, hkind⟩ := @exists_error_of_any _ _
      ((b.run env).run (space event [(["work", "lines"], .directory)] 0))
      (fun f => f.kind = .file .isDirectory) (by decide +kernel)
    exact ⟨f, w', hrun, of_decide_eq_true hkind⟩

end Batch
end ExpiryAudit
