import ExpiryAudit.Auditor
import ExpiryAudit.Checkpoint

/-!
# Auditing a file of events

Every line of a file is an event. Host, history and log follow the events one by
one; the diagnostic lines and the new checkpoint are written only when all events
have been processed. A line that is no event for the rules ends the run before
anything of it is applied.
-/
namespace ExpiryAudit

/-- What a run works on: the world of hosts and clocks, files, and the log. -/
structure Workspace (σ : Type) where
  world : σ
  files : Files
  log : Log

namespace Workspace

variable {σ α : Type}

def report (entry : LogEntry) : Act (Workspace σ) Unit :=
  (Log.add entry).within (·.log) fun l w => { w with log := l }

/-- An act on the world of hosts and clocks. -/
def inWorld (a : Act σ α) : Act (Workspace σ) α :=
  a.within (·.world) fun x w => { w with world := x }

theorem run_inWorld {a : Act σ α} {w : Workspace σ} {result : Except Fault α} {world : σ}
    (h : a.run w.world = (result, world)) :
    (inWorld a).run w = (result, { w with world := world }) := by
  rw [inWorld, Act.run_within, h]

/-- Reads a file. Every part of its path counts. -/
def readFile (path : String) : Act (Workspace σ) FileContent := fun w =>
  (w.files.read (.written path), w)

/-- Writes a file, with the directories above it. -/
def writeFile (path text : String) : Act (Workspace σ) Unit :=
  (Files.write (.tidy path) text).within (·.files) fun f w => { w with files := f }

/-- A session on the world and the log of the workspace. -/
def inSession (history : History) (config : Config) (a : Act (Session σ) α) :
    Act (Workspace σ) (α × Session σ) := fun w =>
  let (result, s) := a.run (Session.start w.world w.log history config)
  (result.map fun x => (x, s), { w with world := s.world, log := s.log })

end Workspace

namespace Auditor

variable {σ : Type}

/-- Names the line of an event that is refused. -/
def atLine (number : Nat) (f : Fault) : Fault :=
  if f.isRejection then .event number f.message else f

/-- Reads a line as an event that every rule takes. -/
def readEvent (a : Auditor σ) (line : List Char) : Except Fault Event := do
  let e ← Event.ofJson (← (Json.parse line).mapError .malformed)
  let _ ← a.prepare e
  return e

/-- The diagnostic lines of the events in numbered lines. Blank lines are counted
and skipped. -/
def processLines (a : Auditor σ) (number : Nat) :
    List (List Char) → Act (Session σ) (List String)
  | [] => pure []
  | line :: rest =>
    if line.isEmpty then processLines a (number + 1) rest
    else do
      let e ← Act.lift ((a.readEvent line).mapError (atLine number))
      let found ← a.process e
      let more ← processLines a (number + 1) rest
      return found ++ more

/-- The diagnostic lines of the events in a file. -/
def processFile (a : Auditor σ) (content : FileContent) : Act (Session σ) (List String) := do
  let found ← a.processLines 1 content.lines.1
  match content.lines.2 with
  | none => return found
  | some f => Act.fail f

end Auditor

/-- A run over a file of events. -/
structure Batch where
  /-- The path of the events, unless it was left blank. -/
  events : Option String
  /-- The path of the diagnostic lines, unless it was left blank. -/
  diagnostics : Option String
  /-- The checkpoint to restore and to save. An empty path is no path. -/
  checkpoint : Option String
  rules : List Rule
  config : Config

namespace Batch

variable {σ : Type}

def checkpointPath (b : Batch) : Option String := b.checkpoint.filter fun path => !path.isEmpty

def kinds (b : Batch) : List RuleKind := b.rules.map (·.kind)

/-- The history to start from. -/
def restore (b : Batch) : Act (Workspace σ) History :=
  match b.checkpointPath with
  | none => pure .empty
  | some path => do
    Workspace.report (.restoring path)
    fun w => (Checkpoint.load b.kinds path w.files, w)

/-- Saves the history at the end. -/
def save (b : Batch) (history : History) : Act (Workspace σ) Unit :=
  match b.checkpointPath with
  | none => pure ()
  | some path => do
    let (text, digest) ← Act.lift (Checkpoint.save b.kinds history)
    Workspace.writeFile path text
    Workspace.report (.checkpointSaved path digest)

/-- A path that is needed now. -/
def neededPath : Option String → Except Fault String
  | some path => .ok path
  | none => .error (.blank .path)

/-- A path inside a message. -/
def shownPath (path : Option String) : String := path.getD "[]"

/-- The text of a file of lines. -/
def linesText (lines : List String) : String :=
  String.ofList (lines.flatMap fun l => l.toList ++ ['\n'])

/-- The number of diagnostic lines of a run. -/
def run (b : Batch) (env : Environment σ) : Act (Workspace σ) Nat := do
  let history ← b.restore
  let a ← Act.lift (Auditor.make b.rules b.config env)
  Workspace.report (.reading (shownPath b.events))
  let content ← Workspace.readFile (← Act.lift (neededPath b.events))
  let (found, s) ← Workspace.inSession history b.config (a.processFile content)
  let total ← Act.lift s.statistics.summary
  Workspace.report (.finished s.events total.updates total.clashes found.length)
  let path ← Act.lift (neededPath b.diagnostics)
  Workspace.writeFile path (linesText found)
  Workspace.report (.diagnosticsSaved path found.length)
  b.save s.history
  return found.length

end Batch
end ExpiryAudit
