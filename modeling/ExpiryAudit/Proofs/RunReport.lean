import ExpiryAudit.CommandLine
import ExpiryAudit.Host.Registry
import ExpiryAudit.Proofs.BatchRun
import ExpiryAudit.Proofs.DiagnosticLines

/-!
# What a run reports

A run that returns has written one line for every event and rule whose verification has
failed, in the order in which its events are processed, and returns their number. The exit
code of the command tells whether there are any.
-/
namespace ExpiryAudit

variable {σ : Type}

/-! ## Lines in a file -/

theorem Text.splitLines_line {s : List Char} (h : '\n' ∉ s) : splitLines (s ++ ['\n']) = [s] := by
  have honto : ∀ line, splitOnto line [] (s ++ ['\n']) = [line.reverse ++ s] := by
    induction s with
    | nil => exact fun line => by simp [splitOnto]
    | cons c s ih =>
      intro line
      obtain ⟨hc, hs⟩ := not_or.1 (mt List.mem_cons.2 h)
      rw [List.cons_append, splitOnto, ih hs]
      · simp
      · exact fun hc' => hc hc'.symm
  exact honto []

namespace Batch

/-- A file of lines without line ends has these lines. -/
theorem splitLines_linesText {lines : List String} (h : ∀ l ∈ lines, '\n' ∉ l.toList) :
    Text.splitLines (linesText lines).toList = lines.map String.toList := by
  rw [linesText, String.toList_ofList]
  induction lines with
  | nil => rfl
  | cons l lines ih =>
    obtain ⟨hl, hlines⟩ := List.forall_mem_cons.1 h
    rw [List.flatMap_cons, Text.splitLines_append, Text.splitLines_line hl, ih hlines]
    rfl

theorem linesText_eq_empty_iff {lines : List String} : linesText lines = "" ↔ lines = [] := by
  cases lines with
  | nil => simp [linesText]
  | cons l lines =>
    have hne : (linesText (l :: lines)).toList ≠ [] := by
      rw [linesText, String.toList_ofList, List.flatMap_cons, List.append_assoc]
      exact List.append_ne_nil_of_right_ne_nil _ (List.cons_ne_nil _ _)
    exact iff_of_false (fun h => hne (by rw [h]; rfl)) (List.cons_ne_nil _ _)

/-! ## Runs -/

/-- What a run that returns has done: it has processed its events from the history of the
checkpoint, and written the lines of the failed verifications. -/
structure Report (b : Batch) (env : Environment σ) (w w' : Workspace σ) (count : Nat)
    (a : Auditor σ) (events : List Event) (start finish : Session σ) : Prop where
  made : Auditor.make b.rules b.config env = .ok a
  started : ∃ history log, b.restored w.files = .ok history ∧
    start = Session.start w.world log history b.config
  read : ∃ path content, b.events = some path ∧ w.files.read (.written path) = .ok content ∧
    content.lines.2 = none ∧ (Auditor.contents content).mapM a.readEvent = .ok events
  processed : (a.processAll events).run start = (.ok (a.linesAll events start), finish)
  requests : (a.evaluationsAll events start).map (·.request) = a.requests events
  reported : ∀ x ∈ a.evaluationsAll events start, x.Reported a
  written : ∃ path, b.diagnostics = some path ∧
    w'.files.read (.tidy path) = .ok (.text (linesText (a.linesAll events start)))
  lines : Text.splitLines (linesText (a.linesAll events start)).toList =
    (a.linesAll events start).map String.toList
  counted : count = (a.linesAll events start).length
  failures : finish.failures = count

theorem legible_of_restored {b : Batch} {files : Files} {h : History}
    (hrestored : b.restored files = .ok h) : h.Legible := by
  unfold restored at hrestored
  split at hrestored
  · cases hrestored
    exact History.legible_empty
  · exact Checkpoint.legible_of_load hrestored

theorem report_of_run {b : Batch} {env : Environment σ} {w w' : Workspace σ} {count : Nat}
    (h : (b.run env).run w = (.ok count, w')) (hapart : b.Apart w'.files) :
    ∃ a events start finish, b.Report env w w' count a events start finish := by
  rw [run_eq] at h
  obtain ⟨⟨found, s⟩, between, haudit, hconclude⟩ := Act.run_bind_eq_ok h
  obtain ⟨history, a, log, path, content, hrestored, hmake, hevents, hread, hprocess, -⟩ :=
    run_audit_ok haudit
  obtain ⟨hcount, -, ⟨path', hdiagnostics, hwritten⟩, -⟩ := run_conclude_ok hconclude
  obtain ⟨hend, events, hlines, hall⟩ := Auditor.run_processContent_ok hprocess
  obtain ⟨rfl, hrequests, hreported, hfailures⟩ :=
    Auditor.run_processAll_ok hall (legible_of_restored hrestored)
  have hplain : ∀ l ∈ a.linesAll events (Session.start w.world log history b.config),
      '\n' ∉ l.toList := by
    intro l hl hmem
    obtain ⟨x, hx, hline⟩ := List.mem_filterMap.1 hl
    exact absurd (((hreported x hx).line l hline).plain _ hmem) (by decide)
  refine ⟨a, events, _, s, hmake, ⟨history, log, hrestored, rfl⟩,
    ⟨path, content, hevents, hread, hend, hlines⟩, hall, hrequests, hreported,
    ⟨path', hdiagnostics, hwritten hapart⟩, splitLines_linesText hplain, hcount, ?_⟩
  rw [hfailures, hcount]
  exact Nat.zero_add _

end Batch

/-! ## Exit codes -/

theorem Rule.defaults_ofInt {n : Int} (h : 0 < n) :
    defaults (Setting.ofInt n h).written =
      .ok (RuleKind.all.map fun k => ⟨k, .whole (.ofInt n h)⟩) := by
  refine mapM_eq_ok_map fun k _ => ?_
  show make k (.int n) = _
  rw [make, Lifetime.make_int h]
  rfl

namespace CommandLine

variable {p : Platform σ} {arguments : List String} {verbose : Bool} {o : RunOptions}
  {s : System σ}

/-- The run that options stand for. -/
def RunOptions.batch (o : RunOptions) (config : Config) : Batch :=
  ⟨o.events, o.diagnostics, o.checkpoint, RuleKind.all.map fun k => ⟨k, .whole config.lifetime⟩,
    config⟩

/-- What a run of a command starts from in some world. -/
def System.work (s : System σ) (world : σ) : Workspace σ := ⟨world, s.files, .lenient⟩

/-- Settings and host of a run, and the world in which the host has been found. -/
structure RunOptions.Accepted (o : RunOptions) (p : Platform σ) (s : System σ) (config : Config)
    (host : Host σ) (world : σ) : Prop where
  config : Config.make (settingJson o.lifetime) (settingJson o.reportEvery) = .ok config
  host : (loadHost p o.host).run s.world = (.ok host, world)

/-- The settings of a command are whole numbers. -/
theorem lifetime_of_make {lifetime reportEvery : Option Int} {config : Config}
    (h : Config.make (settingJson lifetime) (settingJson reportEvery) = .ok config) :
    ∃ n, ∃ hn : 0 < n, config.lifetime = .ofInt n hn := by
  obtain ⟨setting, hsetting, h⟩ := eq_ok_of_bind_eq_ok h
  obtain ⟨other, -, h⟩ := eq_ok_of_bind_eq_ok h
  cases h
  cases lifetime with
  | none => cases hsetting
  | some n =>
    by_cases hn : 0 < n
    · rw [settingJson, Setting.make_int _ hn] at hsetting
      exact ⟨n, hn, (Except.ok.inj hsetting).symm⟩
    · simp [settingJson, Setting.make, Json.whole?, hn] at hsetting

/-- With accepted options the command is the run that they stand for. -/
theorem run_execute {config : Config} {host : Host σ} {world : σ}
    (h : o.Accepted p s config host world) :
    (execute p o).run (s.work s.world) =
      ((o.batch config).run ⟨host, p.now⟩).run (s.work world) := by
  obtain ⟨n, hn, hlifetime⟩ := lifetime_of_make h.config
  have hrules := Rule.defaults_ofInt hn
  rw [← hlifetime] at hrules
  have hhost : (Workspace.inWorld (loadHost p o.host)).run (s.work s.world) =
      (.ok host, s.work world) := Workspace.run_inWorld h.host
  rw [execute, h.config, Act.run_bind_ok (Act.run_lift _ _), Act.run_bind_ok hhost, hrules,
    Act.run_bind_ok (Act.run_lift _ _)]
  rfl

/-- The exit code of a run by what it returns. -/
def exitCode : Except Fault Nat → Nat
  | .error _ => 1
  | .ok 0 => 0
  | .ok _ => 2

theorem carryOut_of_parse (h : parse arguments = .ok ⟨verbose, .run o⟩) (p : Platform σ)
    (s : System σ) :
    (carryOut p arguments s).1.exit = exitCode ((execute p o).run (s.work s.world)).1 ∧
      (carryOut p arguments s).2.files = ((execute p o).run (s.work s.world)).2.files := by
  rw [carryOut, h]
  show (runOutcome verbose o _ ((execute p o).run (s.work s.world)).1).exit = _ ∧ _
  refine ⟨?_, rfl⟩
  generalize ((execute p o).run (s.work s.world)).1 = result
  match result with
  | .error _ => rfl
  | .ok 0 => rfl
  | .ok (_ + 1) => rfl

/-- The run of the options returns, and its lines are in their file. -/
def Writes (p : Platform σ) (arguments : List String) (o : RunOptions) (s : System σ)
    (text : String) : Prop :=
  ∃ config host world n w path, o.Accepted p s config host world ∧
    ((o.batch config).run ⟨host, p.now⟩).run (s.work world) = (.ok n, w) ∧
    o.diagnostics = some path ∧
    (carryOut p arguments s).2.files.read (.tidy path) = .ok (.text text)

/-- The settings are refused, no host is found, or the run of the options ends with a fault. -/
def Raises (p : Platform σ) (o : RunOptions) (s : System σ) : Prop :=
  (∃ f, Config.make (settingJson o.lifetime) (settingJson o.reportEvery) = .error f) ∨
    (∃ f world, (loadHost p o.host).run s.world = (.error f, world)) ∨
    ∃ config host world f w, o.Accepted p s config host world ∧
      ((o.batch config).run ⟨host, p.now⟩).run (s.work world) = (.error f, w)

/-- The exit code tells how a run has ended, and whether the file of its lines is empty. -/
structure Exits (p : Platform σ) (arguments : List String) (o : RunOptions) (s : System σ) :
    Prop where
  failures : (carryOut p arguments s).1.exit = 2 ↔
    ∃ text, Writes p arguments o s text ∧ text ≠ ""
  raised : (carryOut p arguments s).1.exit = 1 ↔ Raises p o s
  clean : (carryOut p arguments s).1.exit = 0 ↔ Writes p arguments o s ""

/-- A host that is not found ends the command. -/
theorem run_execute_error {config : Config} {f : Fault} {world : σ}
    (hconfig : Config.make (settingJson o.lifetime) (settingJson o.reportEvery) = .ok config)
    (hhost : (loadHost p o.host).run s.world = (.error f, world)) :
    ((execute p o).run (s.work s.world)).1 = .error f := by
  have hfails : (Workspace.inWorld (loadHost p o.host)).run (s.work s.world) =
      (.error f, s.work world) := Workspace.run_inWorld hhost
  rw [execute, hconfig, Act.run_bind_ok (Act.run_lift _ _), Act.run_bind_error hfails]

theorem exit_of_raises (h : parse arguments = .ok ⟨verbose, .run o⟩) (hraises : Raises p o s) :
    (carryOut p arguments s).1.exit = 1 := by
  rw [(carryOut_of_parse h p s).1]
  suffices hfault : ∃ f, ((execute p o).run (s.work s.world)).1 = .error f by
    obtain ⟨f, hf⟩ := hfault
    rw [hf]
    rfl
  obtain ⟨f, hconfig⟩ | ⟨f, world, hhost⟩ | ⟨config, host, world, f, w, haccepted, hrun⟩ := hraises
  · exact ⟨f, by rw [execute, hconfig]; rfl⟩
  · cases hconfig : Config.make (settingJson o.lifetime) (settingJson o.reportEvery) with
    | error e => exact ⟨e, by rw [execute, hconfig]; rfl⟩
    | ok config => exact ⟨f, run_execute_error hconfig hhost⟩
  · exact ⟨f, by rw [run_execute haccepted, hrun]⟩

theorem exit_of_writes {text : String} (h : parse arguments = .ok ⟨verbose, .run o⟩)
    (hapart : ∀ config, (o.batch config).Apart (carryOut p arguments s).2.files)
    (hwrites : Writes p arguments o s text) :
    (carryOut p arguments s).1.exit = if text = "" then 0 else 2 := by
  obtain ⟨config, host, world, n, w, path, haccepted, hrun, hdiagnostics, hread⟩ := hwrites
  have hexecute := (run_execute haccepted).trans hrun
  have hfiles := (carryOut_of_parse h p s).2
  rw [hexecute] at hfiles
  obtain ⟨a, events, start, finish, hreport⟩ :=
    Batch.report_of_run hrun (hfiles ▸ hapart config)
  obtain ⟨path', hdiagnostics', hread'⟩ := hreport.written
  cases hdiagnostics.symm.trans hdiagnostics'
  rw [hfiles] at hread
  cases hread.symm.trans hread'
  rw [(carryOut_of_parse h p s).1, hexecute, hreport.counted]
  cases hlines : a.linesAll events start with
  | nil => rfl
  | cons l lines => rw [if_neg (mt Batch.linesText_eq_empty_iff.1 (List.cons_ne_nil _ _))]; rfl

theorem raises_or_writes (h : parse arguments = .ok ⟨verbose, .run o⟩)
    (hapart : ∀ config, (o.batch config).Apart (carryOut p arguments s).2.files) :
    Raises p o s ∨ ∃ text, Writes p arguments o s text := by
  cases hconfig : Config.make (settingJson o.lifetime) (settingJson o.reportEvery) with
  | error e => exact .inl (.inl ⟨e, hconfig⟩)
  | ok config =>
    rcases hhost : (loadHost p o.host).run s.world with ⟨found | host, world⟩
    · exact .inl (.inr (.inl ⟨found, world, hhost⟩))
    · have haccepted : o.Accepted p s config host world := ⟨hconfig, hhost⟩
      rcases hrun : ((o.batch config).run ⟨host, p.now⟩).run (s.work world) with ⟨e | n, w⟩
      · exact .inl (.inr (.inr ⟨config, host, world, e, w, haccepted, hrun⟩))
      · have hfiles := (carryOut_of_parse h p s).2
        rw [(run_execute haccepted).trans hrun] at hfiles
        obtain ⟨a, events, start, finish, hreport⟩ :=
          Batch.report_of_run hrun (hfiles ▸ hapart config)
        obtain ⟨path, hdiagnostics, hread⟩ := hreport.written
        exact .inr ⟨_, config, host, world, n, w, path, haccepted, hrun, hdiagnostics,
          hfiles ▸ hread⟩

theorem exits_of_parse (h : parse arguments = .ok ⟨verbose, .run o⟩)
    (hapart : ∀ config, (o.batch config).Apart (carryOut p arguments s).2.files) :
    Exits p arguments o s := by
  have hwrites : ∀ {text}, Writes p arguments o s text →
      (carryOut p arguments s).1.exit = if text = "" then 0 else 2 := exit_of_writes h hapart
  rcases raises_or_writes h hapart with hraises | ⟨text, htext⟩
  · have hone := exit_of_raises h hraises
    have hnone : ∀ text, ¬Writes p arguments o s text := fun text htext => by
      have hother := hwrites htext
      rw [hone] at hother
      split at hother <;> cases hother
    refine ⟨?_, iff_of_true hone hraises, ?_⟩
    · rw [hone]
      exact iff_of_false (by decide) fun ⟨text, htext, _⟩ => hnone text htext
    · rw [hone]
      exact iff_of_false (by decide) (hnone "")
  · have hexit := hwrites htext
    have hnone : ¬Raises p o s := fun hraises => by
      rw [exit_of_raises h hraises] at hexit
      split at hexit <;> cases hexit
    have hone : (carryOut p arguments s).1.exit ≠ 1 := by
      rw [hexit]
      split <;> decide
    refine ⟨⟨fun htwo => ⟨text, htext, ?_⟩, ?_⟩, iff_of_false hone hnone, ⟨fun hzero => ?_, ?_⟩⟩
    · rintro rfl
      rw [hexit, if_pos rfl] at htwo
      cases htwo
    · rintro ⟨other, hother, hne⟩
      rw [hwrites hother, if_neg hne]
    · by_cases hempty : text = ""
      · exact hempty ▸ htext
      · rw [hexit, if_neg hempty] at hzero
        cases hzero
    · intro hempty
      rw [hwrites hempty, if_pos rfl]

end CommandLine

/-! ## Runs and commands -/

namespace Batch

/-- A run that returns has written exactly the lines of the failed verifications of its events
and returns their number, and the exit code of a command tells whether there are any, whatever
host is found on the system. -/
theorem run_reported :
    (∀ (b : Batch) (env : Environment σ) (w w' : Workspace σ) (count : Nat),
      (b.run env).run w = (.ok count, w') → b.Apart w'.files →
        ∃ a events start finish, b.Report env w w' count a events start finish) ∧
    ∀ (p : Platform σ) (arguments : List String) (verbose : Bool) (o : CommandLine.RunOptions)
      (s : CommandLine.System σ), CommandLine.parse arguments = .ok ⟨verbose, .run o⟩ →
      (∀ config, (o.batch config).Apart (CommandLine.carryOut p arguments s).2.files) →
        CommandLine.Exits p arguments o s :=
  ⟨fun _ _ _ _ _ h hapart => report_of_run h hapart,
    fun _ _ _ _ _ h hapart => CommandLine.exits_of_parse h hapart⟩

/-- A store that forgets values is reported in a line, and the command says so. -/
theorem run_reported_of_one_event :
    let text := "\x7b\"key\": \"k\", \"updates\": \x7b\"value\": 3, \"list\": 4, \"map\": [\"m\", 5]," ++
      " \"reducing\": 6\x7d\x7d\n"
    let config : Config := ⟨.ofInt 1000 (by decide), .ofInt 1000 (by decide)⟩
    let rules : List Rule := [⟨.value, .whole (.ofInt 1000 (by decide))⟩]
    let b : Batch := ⟨some "a", some "lines", some "saved", rules, config⟩
    let files : Files := ⟨["work"], [(["work", "a"], .file (.text text))]⟩
    let env := Behaviour.forgetful.environment
    let world : TimeSource × Tables := (.stepping 0 1, .empty)
    let w : Workspace (TimeSource × Tables) := ⟨world, files, .lenient⟩
    let w' := ((b.run env).run w).2
    let p := Behaviour.platform
    let arguments := ["run", "--events", "a", "--diagnostics", "lines", "--backend",
      "fakes:ForgetfulBackend"]
    let o : CommandLine.RunOptions :=
      ⟨some "a", some "lines", some "fakes:ForgetfulBackend", none, some 100, some 1000⟩
    let s : CommandLine.System (TimeSource × Tables) := ⟨world, files⟩
    ((b.run env).run w = (.ok 1, w') ∧ b.Apart w'.files ∧
      ∃ a events start finish, b.Report env w w' 1 a events start finish) ∧
    CommandLine.parse arguments = .ok ⟨false, .run o⟩ ∧
      ∃ text, CommandLine.Writes p arguments o s text ∧ text ≠ "" := by
  intro text config rules b files env world w w' p arguments o s
  have hreturned : (b.run env).run w = (.ok 1, w') :=
    Prod.ext (eq_ok_of_toOption_eq_some (by decide +kernel)) rfl
  have hapart : b.Apart w'.files := by
    intro path checkpoint hpath hcheckpoint
    cases Option.some.inj hpath
    obtain rfl : "saved" = checkpoint := Option.some.inj hcheckpoint
    have hne : (w'.files.locate (.tidy "lines")).toOption ≠
        (w'.files.locate (.tidy "saved")).toOption := by decide +kernel
    exact fun he => hne (congrArg Except.toOption he)
  have hparsed : CommandLine.parse arguments = .ok ⟨false, .run o⟩ := by rfl
  have hnone : ∀ config, (o.batch config).Apart (CommandLine.carryOut p arguments s).2.files :=
    fun _ _ _ _ hcheckpoint => nomatch hcheckpoint
  have hexits := run_reported.2 p arguments false o s hparsed hnone
  refine ⟨⟨hreturned, hapart, run_reported.1 b env w w' 1 hreturned hapart⟩, hparsed,
    hexits.failures.1 (by decide +kernel)⟩

end Batch
end ExpiryAudit
