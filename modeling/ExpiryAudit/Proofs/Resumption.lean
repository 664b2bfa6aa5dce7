import ExpiryAudit.Host.Reference
import ExpiryAudit.Proofs.BatchRun
import ExpiryAudit.Proofs.Judgement
import ExpiryAudit.Proofs.Lockstep
import ExpiryAudit.Proofs.Restoration

/-!
# Runs that are resumed

Two runs with a checkpoint between them are one run over both texts: they find the same
lines, fail as often, and leave the same world and the same checkpoint behind.
-/
namespace ExpiryAudit

variable {σ : Type}

/-! ## What a run records -/

/-- Audits record nothing but payloads that their rules take. -/
theorem Auditor.keeps_recordedBy (a : Auditor σ) :
    a.Keeps (fun _ => True) (History.RecordedBy (a.rules.map (·.kind))) where
  acquire := fun _ _ _ => trivial
  clear := fun _ _ _ => trivial
  observe := fun _ _ _ _ _ _ _ => trivial
  forget := fun _ s h => History.forall_load_clear h s
  record := fun _ r hr _ _ hu h =>
    History.forall_load_append h ⟨r.kind, List.mem_map_of_mem hr, rfl, hu⟩

theorem Auditor.recordedBy_of_processAll {a : Auditor σ} {events : List Event}
    {lines : List String} {s s' : Session σ}
    (hs : s.history.RecordedBy (a.rules.map (·.kind)))
    (h : (a.processAll events).run s = (.ok lines, s')) :
    s'.history.RecordedBy (a.rules.map (·.kind)) :=
  ((completes_processAll .start h).kept a.keeps_recordedBy.keptByEvaluations ⟨trivial, hs⟩).2

/-! ## What a run has done -/

namespace Batch

variable {b : Batch} {env : Environment σ} {w w' : Workspace σ}

/-- The diagnostic lines of a run, if it finds them. -/
def found (b : Batch) (env : Environment σ) (w : Workspace σ) : List String :=
  match ((b.audit env).run w).1 with
  | .ok (lines, _) => lines
  | .error _ => []

/-- A run with a checkpoint that returns. -/
structure Returns (b : Batch) (env : Environment σ) (text checkpoint : String) (w : Workspace σ)
    (count : Nat) (w' : Workspace σ) : Prop where
  checkpoint : b.checkpointPath = some checkpoint
  events : ∃ path, b.events = some path ∧ w.files.read (.written path) = .ok (.text text)
  returned : (b.run env).run w = (.ok count, w')

/-- The lines are in their file, unless the checkpoint has been saved in its place. -/
def Leaves (b : Batch) (checkpoint : String) (w : Workspace σ) (lines : List String) : Prop :=
  ∃ path, b.diagnostics = some path ∧
    (w.files.locate (.tidy path) ≠ w.files.locate (.tidy checkpoint) →
      w.files.read (.tidy path) = .ok (.text (linesText lines)))

/-- The lines of a run with a checkpoint are in their file, and so is the checkpoint. -/
theorem leaves_of_conclude {checkpoint : String} (hpath : b.checkpointPath = some checkpoint)
    {lines : List String} {s : Session σ} {count : Nat}
    (h : (b.conclude lines s).run w = (.ok count, w')) :
    count = lines.length ∧ w'.world = w.world ∧ b.Leaves checkpoint w' lines ∧
      ∃ text digest, Checkpoint.save b.kinds s.history = .ok (text, digest) ∧
        w'.files.find? (.tidy checkpoint) = .ok (some (.text text)) := by
  obtain ⟨hcount, hworld, ⟨path, hdiagnostics, hread⟩, hsaved⟩ := run_conclude_ok h
  refine ⟨hcount, hworld, ⟨path, hdiagnostics, fun hne => hread ?_⟩, hsaved checkpoint hpath⟩
  intro path' checkpoint' hpath' hcheckpoint'
  cases hdiagnostics.symm.trans hpath'
  cases hpath.symm.trans hcheckpoint'
  exact hne

/-- What a run with a checkpoint has done when it returns. -/
theorem Returns.audited {text checkpoint : String} {count : Nat}
    (h : b.Returns env text checkpoint w count w') : ∃ s between,
      (b.audit env).run w = (.ok (b.found env w, s), between) ∧
      (b.conclude (b.found env w) s).run between = (.ok count, w') ∧
      ∃ history a log, Checkpoint.load b.kinds checkpoint w.files = .ok history ∧
        Auditor.make b.rules b.config env = .ok a ∧
        (a.processFile (.text text)).run (Session.start w.world log history b.config) =
          (.ok (b.found env w), s) ∧ between.world = s.world := by
  have hrun := h.returned
  rw [run_eq] at hrun
  obtain ⟨⟨lines, s⟩, between, haudit, hconclude⟩ := Act.run_bind_eq_ok hrun
  have hfound : b.found env w = lines := by rw [found, haudit]
  obtain ⟨history, a, log, path, content, hload, hmake, hevents, hread, hprocess, hbetween⟩ :=
    run_audit_ok haudit
  obtain ⟨path', hevents', hread'⟩ := h.events
  cases hevents.symm.trans hevents'
  cases hread.symm.trans hread'
  rw [restored_eq_load h.checkpoint] at hload
  rw [hfound]
  exact ⟨s, between, haudit, hconclude, history, a, log, hload, hmake, hprocess, by rw [hbetween]⟩

/-- A checkpoint that does not exist gives an empty history. -/
theorem load_of_missing {kinds : List RuleKind} {path : String} {files : Files}
    (h : files.find? (.tidy path) = .ok none) :
    Checkpoint.load kinds path files = .ok .empty := by
  simp only [Checkpoint.load, h, bind, Except.bind]
  rfl

/-- What a run without an earlier checkpoint saves is loaded as a history that looks the
same. -/
theorem Returns.saved {text checkpoint : String} {count : Nat}
    (h : b.Returns env text checkpoint w count w')
    (hnew : w.files.find? (.tidy checkpoint) = .ok none) {lines : List String} {s : Session σ}
    {between : Workspace σ} (haudit : (b.audit env).run w = (.ok (lines, s), between))
    {files : Files} (hkept : files.find? (.tidy checkpoint) = w'.files.find? (.tidy checkpoint)) :
    s.history.RecordedBy b.kinds ∧
      ∃ k, Checkpoint.load b.kinds checkpoint files = .ok k ∧ k.Alike s.history := by
  obtain ⟨s', between', haudit', hconclude, history, a, log, hload, hmake, hprocess, -⟩ :=
    h.audited
  cases haudit.symm.trans haudit'
  cases (load_of_missing hnew).symm.trans hload
  obtain ⟨hrules, -, -⟩ := Auditor.make_eq_ok hmake
  obtain ⟨events, -, hall⟩ := Auditor.run_processFile_ok hprocess
  have hkinds : b.kinds = a.rules.map (·.kind) := by rw [kinds, hrules]
  have hempty : History.empty.RecordedBy (a.rules.map (·.kind)) := fun _ _ hu => nomatch hu
  have hrecorded : s.history.RecordedBy b.kinds :=
    hkinds ▸ Auditor.recordedBy_of_processAll hempty hall
  obtain ⟨-, -, -, saved, digest, hsave, hfile⟩ := leaves_of_conclude h.checkpoint hconclude
  exact ⟨hrecorded, Checkpoint.load_of_save hrecorded hsave (hkept.trans hfile)⟩

/-! ## Two runs and one -/

/-- A run over a text, and a run over another text that goes on from its checkpoint, are a
run over both texts. -/
theorem resumed_eq_whole {first second whole : Batch} {env : Environment σ}
    {text₁ text₂ saved₁ saved : String} {w w₁ v v₁ x x₁ : Workspace σ} {n₁ n₂ n : Nat}
    (hrules : second.rules = first.rules ∧ whole.rules = first.rules)
    (hconfig : second.config = first.config ∧ whole.config = first.config)
    (hends : Text.EndsLine text₁.toList)
    (hfirst : first.Returns env text₁ saved₁ w n₁ w₁)
    (hnew : w.files.find? (.tidy saved₁) = .ok none)
    (hsecond : second.Returns env text₂ saved₁ v n₂ v₁) (hworld : v.world = w₁.world)
    (hkept : v.files.find? (.tidy saved₁) = w₁.files.find? (.tidy saved₁))
    (hwhole : whole.Returns env (text₁ ++ text₂) saved x n x₁) (hstart : x.world = w.world)
    (hnew' : x.files.find? (.tidy saved) = .ok none) :
    n = n₁ + n₂ ∧ x₁.world = v₁.world ∧
      whole.found env x = first.found env w ++ second.found env v ∧
      (∃ text, v₁.files.find? (.tidy saved₁) = .ok (some (.text text)) ∧
        x₁.files.find? (.tidy saved) = .ok (some (.text text))) ∧
      first.Leaves saved₁ w₁ (first.found env w) ∧
      second.Leaves saved₁ v₁ (second.found env v) ∧
      whole.Leaves saved x₁ (whole.found env x) := by
  obtain ⟨s₁, between₁, haudit₁, hconclude₁, history₁, a, log₁, hload₁, hmake, hprocess₁,
    hbetween₁⟩ := hfirst.audited
  obtain ⟨s₂, between₂, -, hconclude₂, history₂, a₂, log₂, hload₂, hmake₂, hprocess₂,
    hbetween₂⟩ := hsecond.audited
  obtain ⟨t, between, -, hconclude, history, a', log, hload, hmake', hprocess, hbetween⟩ :=
    hwhole.audited
  obtain ⟨hcount₁, hworld₁, hleaves₁, -⟩ := leaves_of_conclude hfirst.checkpoint hconclude₁
  obtain ⟨hcount₂, hworld₂, hleaves₂, text', digest', hsave₂, hfile₂⟩ :=
    leaves_of_conclude hsecond.checkpoint hconclude₂
  obtain ⟨hcount, hworld', hleaves, text, digest, hsave, hfile⟩ :=
    leaves_of_conclude hwhole.checkpoint hconclude
  -- All three runs have one auditor.
  rw [hrules.1, hconfig.1, hmake] at hmake₂
  rw [hrules.2, hconfig.2, hmake] at hmake'
  cases hmake₂
  cases hmake'
  -- The first run and the whole run start with nothing in their histories.
  cases (load_of_missing hnew).symm.trans hload₁
  cases (load_of_missing hnew').symm.trans hload
  have hstarts : (Session.start w.world log₁ .empty first.config).Alike
      (Session.start x.world log .empty whole.config) := ⟨hstart.symm, .refl _⟩
  -- The second run starts from the history of the checkpoint.
  obtain ⟨-, k, hk, hrestored⟩ := hfirst.saved hnew haudit₁ hkept
  have hkinds₂ : second.kinds = first.kinds := by rw [kinds, kinds, hrules.1]
  have hkinds : whole.kinds = first.kinds := by rw [kinds, kinds, hrules.2]
  rw [hkinds₂, hk] at hload₂
  obtain rfl := Except.ok.inj hload₂
  have hseam : ∀ t₁ : Session σ, s₁.Alike t₁ →
      (Session.start v.world log₂ k second.config).Alike t₁ := by
    intro t₁ h
    refine ⟨?_, hrestored.trans h.history⟩
    rw [← h.world, ← hbetween₁, ← hworld₁, ← hworld]
    rfl
  obtain ⟨hparts, halike⟩ :=
    Auditor.processFile_append_alike hends hprocess₁ hprocess₂ hprocess hstarts hseam
  have hsame : Checkpoint.save first.kinds s₂.history = Checkpoint.save first.kinds t.history :=
    Checkpoint.save_eq_of_alike halike.history
  rw [hkinds₂, hsame, ← hkinds, hsave] at hsave₂
  cases hsave₂
  refine ⟨?_, ?_, hparts, ⟨_, hfile₂, hfile⟩, hleaves₁, hleaves₂, hleaves⟩
  · rw [hcount, hparts, List.length_append, hcount₁, hcount₂]
  · rw [hworld', hbetween, hworld₂, hbetween₂, halike.world]

/-- A store that forgets values is reported once in each of two runs, and twice in one. -/
theorem resumed_eq_whole_of_two_events :
    let config : Config := ⟨.ofInt 1000 (by decide), .ofInt 1000 (by decide)⟩
    let rules : List Rule := [⟨.value, .whole (.ofInt 1000 (by decide))⟩]
    let text₁ := "\x7b\"key\": \"k\", \"updates\": \x7b\"value\": 3\x7d\x7d\n"
    let text₂ := "\x7b\"key\": \"k\", \"updates\": \x7b\"value\": 4\x7d\x7d"
    let first : Batch := ⟨some "a", some "lines-a", some "saved", rules, config⟩
    let second : Batch := ⟨some "b", some "lines-b", some "saved", rules, config⟩
    let whole : Batch := ⟨some "ab", some "lines-ab", some "saved-ab", rules, config⟩
    let files : Files := ⟨["work"], [(["work", "a"], .file (.text text₁)),
      (["work", "b"], .file (.text text₂)), (["work", "ab"], .file (.text (text₁ ++ text₂)))]⟩
    let env := Behaviour.forgetful.environment
    let w : Workspace (TimeSource × Tables) := ⟨(.stepping 0 1, .empty), files, .lenient⟩
    let w₁ := ((first.run env).run w).2
    let v₁ := ((second.run env).run w₁).2
    let x₁ := ((whole.run env).run w).2
    first.Returns env text₁ "saved" w 1 w₁ ∧ second.Returns env text₂ "saved" w₁ 1 v₁ ∧
      whole.Returns env (text₁ ++ text₂) "saved-ab" w 2 x₁ ∧
      whole.found env w = first.found env w ++ second.found env w₁ ∧
      x₁.files.find? (.tidy "saved-ab") = v₁.files.find? (.tidy "saved") := by
  intro config rules text₁ text₂ first second whole files env w w₁ v₁ x₁
  have hreturned : ∀ {b : Batch} {v : Workspace (TimeSource × Tables)} {n : Nat},
      ((b.run env).run v).1.toOption = some n →
        (b.run env).run v = (.ok n, ((b.run env).run v).2) := fun h =>
    Prod.ext (eq_ok_of_toOption_eq_some h) rfl
  have hfirst : first.Returns env text₁ "saved" w 1 w₁ :=
    ⟨by decide, ⟨"a", rfl, by rfl⟩, hreturned (by decide +kernel)⟩
  have hwhole : whole.Returns env (text₁ ++ text₂) "saved-ab" w 2 x₁ :=
    ⟨by decide, ⟨"ab", rfl, by rfl⟩, hreturned (by decide +kernel)⟩
  have hnew : w.files.find? (.tidy "saved") = .ok none := by rfl
  have hnew' : w.files.find? (.tidy "saved-ab") = .ok none := by rfl
  have hsecond : second.Returns env text₂ "saved" w₁ 1 v₁ := by
    have hevents : w₁.files.read (.written "b") = .ok (.text text₂) :=
      eq_ok_of_toOption_eq_some (by decide +kernel)
    refine ⟨by decide, ⟨"b", rfl, hevents⟩, hreturned ?_⟩
    -- What is restored is the history that the first run has left, as no payload is a map.
    obtain ⟨s, between, haudit, -, -⟩ := hfirst.audited
    obtain ⟨hrecorded, k, hload, halike⟩ := hfirst.saved hnew haudit rfl
    have hk : k = s.history := halike.eq_of_recordedBy hrecorded (by decide)
    have hrestored : second.restore.run w₁ = (.ok s.history, (second.restore.run w₁).2) :=
      Prod.ext (hload.trans (congrArg Except.ok hk)) rfl
    have hresumed : (((first.audit env).run w).1.toOption.map fun x =>
        ((second.auditFrom env x.2.history >>= fun x => second.conclude x.1 x.2).run
          (second.restore.run w₁).2).1.toOption) = some (some 1) := by decide +kernel
    rw [haudit] at hresumed
    rw [run_eq, audit, bind_assoc, Act.run_bind_ok hrestored]
    exact Option.some.inj hresumed
  have hlast : text₁.toList.getLast? = some '\n' := by decide +kernel
  have hends : Text.EndsLine text₁.toList := fun c hc => .inl (Option.some.inj (hc ▸ hlast))
  obtain ⟨-, -, hparts, ⟨text, hsaved, hsaved'⟩, -⟩ :=
    @resumed_eq_whole (TimeSource × Tables) first second whole env text₁ text₂ "saved" "saved-ab"
      w w₁ w₁ v₁ w x₁ 1 1 2 ⟨rfl, rfl⟩ ⟨rfl, rfl⟩ hends hfirst hnew hsecond rfl rfl hwhole rfl hnew'
  exact ⟨hfirst, hsecond, hwhole, hparts, hsaved'.trans hsaved.symm⟩

end Batch
end ExpiryAudit
