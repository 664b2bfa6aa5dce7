import ExpiryAudit.Host.Reference
import ExpiryAudit.Proofs.BatchRun
import ExpiryAudit.Proofs.EventLines
import ExpiryAudit.Proofs.Judgement
import ExpiryAudit.Proofs.Sparing

/-!
# Lines that runs blame

A run that fails because of a numbered line has found a line at that place that is no event
for its rules. Whatever else a run fails with, it blames no line, unless a host or a clock
speaks of lines of its own accord.
-/
namespace ExpiryAudit

variable {σ : Type}

/-- Neither the host nor the clock says that a line is no event. -/
structure Environment.Spares (env : Environment σ) : Prop where
  acquire : ∀ h, Act.Spares (env.host.acquire h)
  read : ∀ h, Act.Spares (env.host.read h)
  write : ∀ h c, Act.Spares (env.host.write h c)
  clear : ∀ h, Act.Spares (env.host.clear h)
  now : Act.Spares env.now

/-! ## Reference stores -/

namespace Tables

theorem spares_readAt (b : Behaviour) (h : Handle) (now : Int) (t : Tables) :
    Spares (t.readAt b h now) := by
  unfold readAt
  split
  · split
    · exact .ok _
    · exact (Lifetime.spares_endsBy _ _ _).bind fun _ => .ite (.ok _) (.ok _)
  · exact (Lifetime.spares_keep (fun _ => Lifetime.spares_endsAfter _ _ _) _).bind fun _ => .ok _
  · exact (Lifetime.spares_keep (fun _ => Lifetime.spares_endsAfter _ _ _) _).bind fun _ => .ok _

end Tables

namespace Behaviour

theorem spares_hostNow : Act.Spares TimeSource.hostNow := fun _ => .ok _

theorem spares_now : Act.Spares TimeSource.now := by
  intro c
  simp only [TimeSource.now, Act.run]
  split
  · exact .ok _
  · exact .error rfl
  · exact .ok _

/-- Reference stores and their clocks blame no line. -/
theorem spares_environment (b : Behaviour) : b.environment.Spares where
  acquire h := .ite (fun _ => .error rfl) (.pure ())
  read h := spares_hostNow.within.bind fun now s => by
    have hread := s.2.spares_readAt b h now
    simp only [Act.run]
    split
    · exact .ok _
    · next f heq => exact .error (hread f heq)
  write h c := .ite (.pure ()) (spares_hostNow.within.bind fun _ => .modify _)
  clear h := .modify _
  now := spares_now.within

end Behaviour

/-! ## Events -/

theorem RuleKind.spares_validate (k : RuleKind) (p : Payload) : Spares (k.validate p) := by
  cases k with
  | map => exact p.spares_mapEntry.bind fun _ => .ok _
  | _ => exact (p.spares_amount _).bind fun _ => .ok _

namespace Event

theorem spares_updateFor (e : Event) (rule : Text) : Spares (e.updateFor rule) := by
  unfold updateFor
  split
  · split
    · exact .ok _
    · exact .error rfl
  · exact Json.spares_field _ _

theorem spares_ofJson (d : Json) : Spares (ofJson d) := by
  refine (d.spares_field _).bind fun updates => ?_
  split
  · refine (d.spares_field _).bind fun key => ?_
    unfold make
    split
    · split
      · exact .error rfl
      · exact .ok _
    · exact .error rfl
  · exact .error rfl

end Event

/-! ## Acts of a session -/

namespace Session

theorem spares_inWorld {α : Type} {a : Act σ α} (h : Act.Spares a) : Act.Spares (inWorld a) :=
  h.within

theorem spares_report (entry : LogEntry) : Act.Spares (report entry : Act (Session σ) Unit) :=
  (Log.spares_add entry).within

theorem spares_reportAny (entry : Option LogEntry) :
    Act.Spares (reportAny entry : Act (Session σ) Unit) := by
  cases entry with
  | none => exact .pure ()
  | some entry => exact spares_report entry

theorem spares_flush : Act.Spares Statistics.flush := by
  intro s
  simp only [Statistics.flush, Act.run]
  split
  · exact s.spares_summary.map _
  · exact .ok _

theorem spares_count (clash : Bool) (length : Nat) :
    Act.Spares (count clash length : Act (Session σ) Unit) :=
  (Act.Spares.modify _).bind fun _ => spares_flush.within.bind fun _ => spares_reportAny _

end Session

theorem Rule.spares_observe {env : Environment σ} (henv : env.Spares) (r : Rule) (h : Handle)
    (p : Payload) : Act.Spares (r.observe env h p) := by
  have hread : Act.Spares (r.read env.host h) :=
    (henv.read h).bind fun v => .lift (r.spares_observed v)
  have happly : Act.Spares (r.apply env.host h p) := by
    unfold apply
    split
    · exact (Act.Spares.lift (p.spares_amount _)).bind fun _ => henv.write _ _
    · exact (Act.Spares.lift (p.spares_amount _)).bind fun _ => henv.write _ _
    · exact (Act.Spares.lift p.spares_mapEntry).bind fun _ => henv.write _ _
    · exact (Act.Spares.lift (p.spares_amount _)).bind fun _ => (henv.read h).bind fun _ =>
        (Act.Spares.lift (spares_addTo _ _)).bind fun _ => henv.write _ _
  exact henv.now.bind fun _ => hread.bind fun _ => happly.bind fun _ => hread.bind fun _ =>
    henv.now.bind fun _ => .pure _

namespace Auditor

variable {a : Auditor σ}

theorem spares_make (rules : List Rule) (config : Config) (env : Environment σ) :
    Spares (make rules config env) := by
  unfold make
  split
  · exact .ok _
  · exact .error rfl

theorem spares_prepare (e : Event) : Spares (a.prepare e) :=
  .mapM fun r => (e.spares_updateFor _).bind fun _ => (r.kind.spares_validate _).bind fun _ => .ok _

theorem spares_readEvent (line : List Char) : Spares (a.readEvent line) :=
  (spares_parse line).bind fun d => (Event.spares_ofJson d).bind fun e =>
    (spares_prepare e).bind fun _ => .ok _

section Environment

variable (henv : a.environment.Spares)

include henv

theorem spares_retry (r : Rule) (key : Text) (p : Payload) : Act.Spares (a.retry r key p) :=
  (Session.spares_inWorld (henv.clear _)).bind fun _ => (Act.Spares.modify _).bind fun _ =>
    (Session.spares_inWorld (r.spares_observe henv _ p)).bind fun _ =>
      (Session.spares_report _).bind fun _ => .pure _

theorem spares_evaluate (r : Rule) (key : Text) (p : Payload) :
    Act.Spares (a.evaluate r key p) := by
  refine (Session.spares_inWorld (henv.acquire _)).bind fun _ => ?_
  refine Act.Spares.bind (fun _ => .ok _) fun previous => ?_
  refine (Session.spares_inWorld (r.spares_observe henv _ p)).bind fun first => ?_
  refine (Act.Spares.lift first.spares_update).bind fun attempt => ?_
  have hrecord : ∀ (clash : Bool) (previous : List Update) (o : Observation),
      Act.Spares (do
        Session.count clash previous.length
        let u ← Act.lift o.update
        Session.appendHistory ⟨key, r.id⟩ u
        return ⟨key, r, previous, o⟩ : Act (Session σ) Verification) := fun _ _ o =>
    (Session.spares_count _ _).bind fun _ => (Act.Spares.lift o.spares_update).bind fun _ =>
      (Act.Spares.modify _).bind fun _ => .pure _
  refine (Session.spares_reportAny _).bind fun _ => .ite ?_ (hrecord _ _ _)
  exact (spares_retry henv r key p).bind fun _ => hrecord _ _ _

omit henv in
theorem spares_judge (v : Verification) :
    Act.Spares (judge v : Act (Session σ) (Option String)) := by
  refine (Act.Spares.lift (v.rule.spares_verify _ _)).bind fun holds => .ite (.pure _) ?_
  exact (Act.Spares.modify _).bind fun _ => (Session.spares_report _).bind fun _ =>
    (Act.Spares.lift v.spares_line).bind fun _ => .pure _

theorem spares_judgeAll (key : Text) (pairs : List (Rule × Json)) :
    Act.Spares (a.judgeAll key pairs) := by
  induction pairs with
  | nil => exact .pure _
  | cons x rest ih =>
    exact (spares_evaluate henv x.1 key _).bind fun v => (spares_judge v).bind fun _ =>
      ih.bind fun _ => .pure _

theorem spares_process (e : Event) : Act.Spares (a.process e) :=
  (Act.Spares.lift (spares_prepare e)).bind fun _ => Act.Spares.bind (fun _ => .ok _) fun _ =>
    (spares_judgeAll henv _ _).bind fun _ => (Session.spares_report _).bind fun _ => .pure _

/-- The line that is blamed is the one at that place, and it is no event. -/
theorem refused_of_processLines_error {lines : List (List Char)} {number : Nat}
    {s t : Session σ} {f : Fault} (h : (a.processLines number lines).run s = (.error f, t))
    (hblames : f.blamesLine = true) :
    ∃ i line message, lines[i]? = some line ∧ line ≠ [] ∧ ¬IsEventFor a.rules line ∧
      f = .event (number + i) message := by
  induction lines generalizing number s with
  | nil => cases h
  | cons line rest ih =>
    have hlater : ∀ {s}, (a.processLines (number + 1) rest).run s = (.error f, t) →
        ∃ i line' message, (line :: rest)[i]? = some line' ∧ line' ≠ [] ∧
          ¬IsEventFor a.rules line' ∧ f = .event (number + i) message := by
      intro s h
      obtain ⟨i, line', message, hi, hne, hrefused, rfl⟩ := ih h
      exact ⟨i + 1, line', message, hi, hne, hrefused, by rw [Nat.add_assoc, Nat.add_comm 1]⟩
    unfold processLines at h
    by_cases hblank : line.isEmpty
    · rw [if_pos hblank] at h
      exact hlater h
    rw [if_neg hblank] at h
    rcases Act.run_bind_eq_error h with h | ⟨e, s₁, -, h⟩
    · cases hread : a.readEvent line with
      | ok e =>
        rw [hread] at h
        cases h
      | error g =>
        rw [hread] at h
        cases h
        have hspares : g.blamesLine = false := spares_readEvent line g hread
        refine ⟨0, line, g.message, rfl, by simpa using hblank, fun hline => ?_, ?_⟩
        · obtain ⟨e, he⟩ := exists_readEvent_iff.2 hline
          cases hread.symm.trans he
        · unfold atLine at hblames ⊢
          split
          · rfl
          · next hg =>
            rw [if_neg hg, hspares] at hblames
            cases hblames
    rcases Act.run_bind_eq_error h with h | ⟨found, s₂, -, h⟩
    · exact absurd hblames ((spares_process henv e).not_blames h)
    rcases Act.run_bind_eq_error h with h | ⟨more, s₃, -, h⟩
    · exact hlater h
    · cases h

theorem refused_of_processFile_error {content : FileContent} {s t : Session σ} {f : Fault}
    (h : (a.processFile content).run s = (.error f, t)) (hblames : f.blamesLine = true) :
    ∃ i line message, content.lines.1[i]? = some line ∧ line ≠ [] ∧
      ¬IsEventFor a.rules line ∧ f = .event (i + 1) message := by
  rcases Act.run_bind_eq_error h with h | ⟨found, s₁, -, h⟩
  · obtain ⟨i, line, message, hline, hne, hrefused, rfl⟩ :=
      refused_of_processLines_error henv h hblames
    exact ⟨i, line, message, hline, hne, hrefused, by rw [Nat.add_comm]⟩
  · split at h
    · cases h
    · next g hfault =>
      cases h
      cases (FileContent.spares_lines hfault).symm.trans hblames

end Environment
end Auditor

/-! ## Runs -/

namespace Workspace

theorem spares_report (entry : LogEntry) : Act.Spares (report entry : Act (Workspace σ) Unit) :=
  (Log.spares_add entry).within

theorem spares_readFile (path : String) :
    Act.Spares (readFile path : Act (Workspace σ) FileContent) := fun w => w.files.spares_read _

theorem spares_writeFile (path text : String) :
    Act.Spares (writeFile path text : Act (Workspace σ) Unit) := (Files.spares_write _ text).within

end Workspace

namespace Batch

variable {b : Batch} {env : Environment σ} {w w' : Workspace σ}

theorem spares_neededPath (path : Option String) : Spares (neededPath path) := by
  cases path with
  | none => exact .error rfl
  | some path => exact .ok path

theorem spares_restore (b : Batch) : Act.Spares (b.restore : Act (Workspace σ) History) := by
  unfold restore
  split
  · exact .pure _
  · exact (Workspace.spares_report _).bind fun _ w => Checkpoint.spares_load _ _ _

theorem spares_save (b : Batch) (history : History) :
    Act.Spares (b.save history : Act (Workspace σ) Unit) := by
  unfold save
  split
  · exact .pure _
  · exact (Act.Spares.lift (Checkpoint.spares_save _ _)).bind fun _ =>
      (Workspace.spares_writeFile _ _).bind fun _ => Workspace.spares_report _

theorem spares_conclude (b : Batch) (found : List String) (s : Session σ) :
    Act.Spares (b.conclude found s) :=
  (Act.Spares.lift s.statistics.spares_summary).bind fun _ =>
    (Workspace.spares_report _).bind fun _ =>
      (Act.Spares.lift (spares_neededPath _)).bind fun _ =>
        (Workspace.spares_writeFile _ _).bind fun _ => (Workspace.spares_report _).bind fun _ =>
          (b.spares_save _).bind fun _ => .pure _

theorem refused_of_audit_error (henv : env.Spares) {f : Fault}
    (h : (b.audit env).run w = (.error f, w')) (hblames : f.blamesLine = true) :
    ∃ path content i line message, b.events = some path ∧
      w.files.read (.written path) = .ok content ∧ content.lines.1[i]? = some line ∧ line ≠ [] ∧
      ¬IsEventFor b.rules line ∧ f = .event (i + 1) message := by
  rcases Act.run_bind_eq_error h with h | ⟨history, w₁, hrestored, h⟩
  · exact absurd hblames (b.spares_restore.not_blames h)
  obtain ⟨-, log, rfl⟩ := run_restore_ok hrestored
  rcases Act.run_bind_eq_error h with h | ⟨a, w₂, hmade, h⟩
  · exact absurd hblames ((Act.Spares.lift (Auditor.spares_make _ _ _)).not_blames h)
  obtain ⟨hmake, rfl⟩ := Act.run_lift_eq_ok hmade
  rcases Act.run_bind_eq_error h with h | ⟨⟨⟩, w₃, hreported, h⟩
  · exact absurd hblames ((Workspace.spares_report _).not_blames h)
  obtain ⟨log', rfl⟩ := Workspace.run_report_ok hreported
  rcases Act.run_bind_eq_error h with h | ⟨path, w₄, hlifted, h⟩
  · exact absurd hblames ((Act.Spares.lift (spares_neededPath _)).not_blames h)
  obtain ⟨hneeded, rfl⟩ := Act.run_lift_eq_ok hlifted
  rcases Act.run_bind_eq_error h with h | ⟨content, w₅, hfile, h⟩
  · exact absurd hblames ((Workspace.spares_readFile path).not_blames h)
  obtain ⟨hread, rfl⟩ := Prod.mk.inj hfile
  cases hprocess : (a.processFile content).run (Session.start w.world log' history b.config) with
  | mk result s =>
    rw [Workspace.run_inSession hprocess] at h
    cases result with
    | ok found => cases h
    | error g =>
      cases h
      obtain ⟨hrules, -, henvironment⟩ := Auditor.make_eq_ok hmake
      obtain ⟨i, line, message, hline, hne, hrefused, rfl⟩ :=
        Auditor.refused_of_processFile_error (henvironment ▸ henv) hprocess hblames
      exact ⟨path, content, i, line, message, neededPath_eq_ok hneeded, hread, hline, hne,
        hrules ▸ hrefused, rfl⟩

/-- A run that blames a line has read a file in which the line at that place is no event. -/
theorem refused_of_run_error (henv : env.Spares) {f : Fault}
    (h : (b.run env).run w = (.error f, w')) (hblames : f.blamesLine = true) :
    ∃ path content i line message, b.events = some path ∧
      w.files.read (.written path) = .ok content ∧ content.lines.1[i]? = some line ∧ line ≠ [] ∧
      ¬IsEventFor b.rules line ∧ f = .event (i + 1) message := by
  rw [run_eq] at h
  rcases Act.run_bind_eq_error h with h | ⟨found, w₁, -, h⟩
  · exact refused_of_audit_error henv h hblames
  · exact absurd hblames ((b.spares_conclude _ _).not_blames h)

end Batch
end ExpiryAudit
