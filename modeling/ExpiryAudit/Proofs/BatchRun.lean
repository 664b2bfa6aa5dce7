import ExpiryAudit.Batch
import ExpiryAudit.Proofs.Act
import ExpiryAudit.Proofs.Storage

/-!
# Runs taken apart

A run starts from the history of its checkpoint, finds its diagnostic lines, and then
writes them and saves the history that the events have left. What it writes first stays,
unless the checkpoint is saved in its place.
-/
namespace ExpiryAudit

variable {σ : Type}

namespace Workspace

theorem run_report_ok {entry : LogEntry} {w w' : Workspace σ}
    (h : (report entry).run w = (.ok (), w')) : ∃ log, w' = { w with log := log } := by
  obtain ⟨log, -, hw⟩ := Act.run_within_eq_ok h
  exact ⟨log, hw⟩

theorem run_report (entry : LogEntry) (hwritable : entry.isWritable = true) (w : Workspace σ) :
    (report entry).run w =
      (.ok (), { w with log := { w.log with recent := entry :: w.log.recent } }) := by
  rw [Workspace.report, Act.run_within, Log.run_add_of_isWritable hwritable]

theorem run_writeFile_ok {path text : String} {w w' : Workspace σ}
    (h : (writeFile path text).run w = (.ok (), w')) : ∃ files,
      (Files.write (.tidy path) text).run w.files = (.ok (), files) ∧
        w' = { w with files := files } := Act.run_within_eq_ok h

theorem run_writeFile_error {path text : String} {w w' : Workspace σ} {f : Fault}
    (h : (writeFile path text).run w = (.error f, w')) :
    ∃ files, (Files.write (.tidy path) text).run w.files = (.error f, files) := by
  rw [writeFile, Act.run_within] at h
  exact ⟨_, Prod.ext (Prod.mk.inj h).1 rfl⟩

theorem run_inSession {α : Type} {act : Act (Session σ) α} {history : History} {config : Config}
    {result : Except Fault α} {w : Workspace σ} {s : Session σ}
    (h : act.run (Session.start w.world w.log history config) = (result, s)) :
    (inSession history config act).run w =
      (result.map fun x => (x, s), { w with world := s.world, log := s.log }) := by
  simp only [Act.run] at h
  simp only [Act.run, inSession, h]

theorem run_inSession_ok {α : Type} {history : History} {config : Config}
    {act : Act (Session σ) α} {w w' : Workspace σ} {x : α} {s : Session σ}
    (h : (inSession history config act).run w = (.ok (x, s), w')) :
    act.run (Session.start w.world w.log history config) = (.ok x, s) ∧
      w' = { w with world := s.world, log := s.log } := by
  cases hact : act.run (Session.start w.world w.log history config) with
  | mk result t =>
    rw [run_inSession hact] at h
    obtain ⟨hresult, hw⟩ := Prod.mk.inj h
    cases result with
    | error e => cases hresult
    | ok y =>
      cases hresult
      exact ⟨rfl, hw.symm⟩

end Workspace

namespace Batch

variable {b : Batch} {env : Environment σ} {w w' : Workspace σ}

/-- The history that a run starts from. -/
def restored (b : Batch) (files : Files) : Except Fault History :=
  match b.checkpointPath with
  | none => .ok .empty
  | some path => Checkpoint.load b.kinds path files

theorem restored_eq_load {checkpoint : String} (hpath : b.checkpointPath = some checkpoint)
    (files : Files) : b.restored files = Checkpoint.load b.kinds checkpoint files := by
  rw [restored, hpath]

/-- A run from a history up to its diagnostic lines, with the session in which they are
found. -/
def auditFrom (b : Batch) (env : Environment σ) (history : History) :
    Act (Workspace σ) (List String × Session σ) := do
  let a ← Act.lift (Auditor.make b.rules b.config env)
  Workspace.report (.reading (shownPath b.events))
  let content ← Workspace.readFile (← Act.lift (neededPath b.events))
  Workspace.inSession history b.config (a.processFile content)

/-- The first part of a run: its diagnostic lines are found. -/
def audit (b : Batch) (env : Environment σ) : Act (Workspace σ) (List String × Session σ) :=
  b.restore >>= b.auditFrom env

/-- The second part of a run: what has been found is written. -/
def conclude (b : Batch) (found : List String) (s : Session σ) : Act (Workspace σ) Nat := do
  let total ← Act.lift s.statistics.summary
  Workspace.report (.finished s.events total.updates total.clashes found.length)
  let path ← Act.lift (neededPath b.diagnostics)
  Workspace.writeFile path (linesText found)
  Workspace.report (.diagnosticsSaved path found.length)
  b.save s.history
  return found.length

theorem run_eq (b : Batch) (env : Environment σ) :
    b.run env = b.audit env >>= fun x => b.conclude x.1 x.2 := by
  simp only [run, audit, auditFrom, conclude, bind_assoc]

theorem neededPath_eq_ok {path : Option String} {p : String} (h : neededPath path = .ok p) :
    path = some p := by
  cases path with
  | none => cases h
  | some q => exact congrArg some (Except.ok.inj h)

theorem run_restore_ok {history : History} (h : b.restore.run w = (.ok history, w')) :
    b.restored w.files = .ok history ∧ ∃ log, w' = { w with log := log } := by
  unfold restore at h
  unfold restored
  cases hpath : b.checkpointPath with
  | none =>
    rw [hpath] at h
    obtain ⟨rfl, rfl⟩ := Act.run_pure_eq_ok h
    exact ⟨rfl, w.log, rfl⟩
  | some checkpoint =>
    rw [hpath] at h
    obtain ⟨⟨⟩, w₁, hreported, h⟩ := Act.run_bind_eq_ok h
    obtain ⟨log, rfl⟩ := Workspace.run_report_ok hreported
    obtain ⟨hload, rfl⟩ := Prod.mk.inj h
    exact ⟨hload, log, rfl⟩

theorem run_restore {history : History} (h : b.restored w.files = .ok history) :
    b.restore.run w = (.ok history, { w with log := { w.log with
      recent := (b.checkpointPath.map .restoring).toList ++ w.log.recent } }) := by
  unfold restore
  cases hpath : b.checkpointPath with
  | none =>
    rw [restored, hpath] at h
    cases h
    rfl
  | some path =>
    rw [restored_eq_load hpath] at h
    exact (Act.run_bind_ok (Workspace.run_report (.restoring path) rfl w)).trans (Prod.ext h rfl)

/-- What the first part of a run has done: an auditor has processed the events from the
history of the checkpoint. -/
theorem run_audit_ok {lines : List String} {s : Session σ}
    (h : (b.audit env).run w = (.ok (lines, s), w')) :
    ∃ history a log path content, b.restored w.files = .ok history ∧
      Auditor.make b.rules b.config env = .ok a ∧ b.events = some path ∧
      w.files.read (.written path) = .ok content ∧
      (a.processFile content).run (Session.start w.world log history b.config) =
        (.ok lines, s) ∧ w' = { w with world := s.world, log := s.log } := by
  obtain ⟨history, w₁, hrestored, h⟩ := Act.run_bind_eq_ok h
  obtain ⟨hload, log, rfl⟩ := run_restore_ok hrestored
  obtain ⟨a, w₂, hmade, h⟩ := Act.run_bind_eq_ok h
  obtain ⟨hmake, rfl⟩ := Act.run_lift_eq_ok hmade
  obtain ⟨⟨⟩, w₃, hreported, h⟩ := Act.run_bind_eq_ok h
  obtain ⟨log', rfl⟩ := Workspace.run_report_ok hreported
  obtain ⟨path, w₄, hlifted, h⟩ := Act.run_bind_eq_ok h
  obtain ⟨hneeded, rfl⟩ := Act.run_lift_eq_ok hlifted
  obtain ⟨content, w₅, hfile, h⟩ := Act.run_bind_eq_ok h
  obtain ⟨hcontent, rfl⟩ := Prod.mk.inj hfile
  obtain ⟨hprocess, rfl⟩ := Workspace.run_inSession_ok h
  exact ⟨history, a, log', path, content, hload, hmake, neededPath_eq_ok hneeded, hcontent,
    hprocess, rfl⟩

/-- A checkpoint is saved if there is a path for it, and nothing else is written. -/
theorem run_save_ok {history : History} (h : (b.save history).run w = (.ok (), w')) :
    w'.world = w.world ∧ (b.checkpointPath = none ∧ w'.files = w.files ∨
      ∃ checkpoint text digest, b.checkpointPath = some checkpoint ∧
        Checkpoint.save b.kinds history = .ok (text, digest) ∧
        (Files.write (.tidy checkpoint) text).run w.files = (.ok (), w'.files)) := by
  unfold save at h
  split at h
  · next hpath =>
    obtain ⟨-, rfl⟩ := Act.run_pure_eq_ok h
    exact ⟨rfl, .inl ⟨hpath, rfl⟩⟩
  · next checkpoint hpath =>
    obtain ⟨⟨text, digest⟩, w₁, hlifted, h⟩ := Act.run_bind_eq_ok h
    obtain ⟨hsave, rfl⟩ := Act.run_lift_eq_ok hlifted
    obtain ⟨⟨⟩, w₂, hwritten, hreported⟩ := Act.run_bind_eq_ok h
    obtain ⟨files, hwrite, rfl⟩ := Workspace.run_writeFile_ok hwritten
    obtain ⟨log, rfl⟩ := Workspace.run_report_ok hreported
    exact ⟨rfl, .inr ⟨checkpoint, text, digest, hpath, hsave, hwrite⟩⟩

/-- The two paths of a run do not lead to one file. -/
def Apart (b : Batch) (files : Files) : Prop :=
  ∀ path checkpoint, b.diagnostics = some path → b.checkpointPath = some checkpoint →
    files.locate (.tidy path) ≠ files.locate (.tidy checkpoint)

/-- What the second part of a run has done: the lines are in their file, unless the checkpoint
has been saved in its place, and so is the checkpoint. -/
theorem run_conclude_ok {lines : List String} {s : Session σ} {count : Nat}
    (h : (b.conclude lines s).run w = (.ok count, w')) :
    count = lines.length ∧ w'.world = w.world ∧
      (∃ path, b.diagnostics = some path ∧
        (b.Apart w'.files → w'.files.read (.tidy path) = .ok (.text (linesText lines)))) ∧
      ∀ checkpoint, b.checkpointPath = some checkpoint →
        ∃ text digest, Checkpoint.save b.kinds s.history = .ok (text, digest) ∧
          w'.files.find? (.tidy checkpoint) = .ok (some (.text text)) := by
  obtain ⟨total, w₁, hlifted, h⟩ := Act.run_bind_eq_ok h
  obtain ⟨-, rfl⟩ := Act.run_lift_eq_ok hlifted
  obtain ⟨⟨⟩, w₂, hreported, h⟩ := Act.run_bind_eq_ok h
  obtain ⟨log, rfl⟩ := Workspace.run_report_ok hreported
  obtain ⟨path, w₃, hpathLifted, h⟩ := Act.run_bind_eq_ok h
  obtain ⟨hneeded, rfl⟩ := Act.run_lift_eq_ok hpathLifted
  obtain ⟨⟨⟩, w₄, hwritten, h⟩ := Act.run_bind_eq_ok h
  obtain ⟨files, hwrite, rfl⟩ := Workspace.run_writeFile_ok hwritten
  obtain ⟨⟨⟩, w₅, hreported, h⟩ := Act.run_bind_eq_ok h
  obtain ⟨log', rfl⟩ := Workspace.run_report_ok hreported
  obtain ⟨⟨⟩, w₆, hsaved, h⟩ := Act.run_bind_eq_ok h
  obtain ⟨rfl, rfl⟩ := Act.run_pure_eq_ok h
  have hpath := neededPath_eq_ok hneeded
  have hread := Files.read_of_store hwrite
  obtain ⟨hworld, ⟨hnone, hfiles⟩ | ⟨checkpoint, text, digest, hsome, hsave, hstore⟩⟩ :=
    run_save_ok hsaved
  · refine ⟨rfl, hworld, ⟨path, hpath, fun _ => ?_⟩, fun checkpoint hcheckpoint => ?_⟩
    · rw [hfiles]
      exact hread
    · cases hnone.symm.trans hcheckpoint
  · refine ⟨rfl, hworld, ⟨path, hpath, fun hapart => ?_⟩, fun checkpoint' hcheckpoint => ?_⟩
    · exact Files.read_of_store_elsewhere hstore hread (hapart path checkpoint hpath hsome)
    · cases hsome.symm.trans hcheckpoint
      exact ⟨text, digest, hsave, by rw [Files.find?, Files.read_of_store hstore]⟩

end Batch
end ExpiryAudit
