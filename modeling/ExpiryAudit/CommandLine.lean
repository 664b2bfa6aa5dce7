import ExpiryAudit.CommandLine.Options
import ExpiryAudit.Generator
import ExpiryAudit.Host.Library

/-!
# The command line

Two commands: to verify a file of events against a host, and to generate such a
file. The exit code tells a run without failures from one with failures, and both
from a run that could not be completed.
-/
namespace ExpiryAudit.CommandLine

/-! ## Arguments -/

/-- What a run is made from; what was left blank is missing. -/
structure RunOptions where
  events : Option String
  diagnostics : Option String
  host : Option String
  checkpoint : Option String
  lifetime : Option Int
  reportEvery : Option Int
  deriving DecidableEq, Repr

inductive Command where
  | run (options : RunOptions)
  | generate (order : Generator.Order)
  deriving DecidableEq, Repr

structure Invocation where
  verbose : Bool
  command : Command
  deriving DecidableEq, Repr

def helpFlag : String × String := ("--help", "-h/--help")

def mainGrammar : Grammar :=
  ⟨"ttl-verifier", [helpFlag, ("--verbose", "-v/--verbose")], []⟩

def runGrammar : Grammar :=
  ⟨"ttl-verifier run", [helpFlag],
    [⟨"--events", false, true⟩, ⟨"--diagnostics", false, true⟩, ⟨"--backend", false, true⟩,
      ⟨"--checkpoint", false, false⟩, ⟨"--ttl-ms", true, false⟩, ⟨"--report-every", true, false⟩]⟩

def generateGrammar : Grammar :=
  ⟨"ttl-verifier generate", [helpFlag],
    [⟨"--output", false, true⟩, ⟨"--count", true, false⟩, ⟨"--seed", true, false⟩,
      ⟨"--keys", true, false⟩]⟩

def textOf (f : Grammar.Found) (name : String) : Option String :=
  match f.value? name with
  | some (.text s) => some s
  | _ => none

/-- A number, which has a default unless it was left blank. -/
def numberOf (f : Grammar.Found) (name : String) (default : Int) : Option Int :=
  match f.value? name with
  | some (.number n) => some n
  | some _ => none
  | none => some default

def runOptions (f : Grammar.Found) : RunOptions where
  events := textOf f "--events"
  diagnostics := textOf f "--diagnostics"
  host := textOf f "--backend"
  checkpoint := textOf f "--checkpoint"
  lifetime := numberOf f "--ttl-ms" Config.defaultLifetime
  reportEvery := numberOf f "--report-every" Config.defaultReportEvery

def generatorOrder (f : Grammar.Found) : Generator.Order where
  path := textOf f "--output"
  count := numberOf f "--count" Generator.defaultCount
  seed := numberOf f "--seed" Generator.defaultSeed
  keys := numberOf f "--keys" Generator.defaultKeys

/-- Reads the command and its options. The arguments that nobody knows come
second. -/
def readCommand (name : String) (arguments : List String) :
    Except Refusal (Command × List String) :=
  if name = "run" then do
    let f ← runGrammar.read arguments
    return (.run (runOptions f), f.rest)
  else if name = "generate" then do
    let f ← generateGrammar.read arguments
    return (.generate (generatorOrder f), f.rest)
  else .error (mainGrammar.refuse ("argument command: invalid choice: " ++ Text.quote name ++
    " (choose from 'run', 'generate')"))

/-- The flags before the command, the command, and all that nobody knows. -/
def readMain (verbose : Bool) (unknown : List String) :
    List String → Except Refusal (Invocation × List String)
  | [] => .error (mainGrammar.refuse "the following arguments are required: command")
  | argument :: rest =>
    match mainGrammar.role argument with
    | .flag name => if name = "--verbose" then readMain true unknown rest else .error .help
    | .attached name value => .error (mainGrammar.refuseValue name value)
    | .letters first more => do
      let flags ← mainGrammar.readLetters first more
      if flags.contains "--help" then .error .help else readMain true unknown rest
    | .plain => do
      let (command, more) ← readCommand argument rest
      return (⟨verbose, command⟩, unknown ++ more)
    | _ =>
      if argument = "--" && !rest.isEmpty then do
        let (command, more) ← readCommand argument rest
        return (⟨verbose, command⟩, unknown ++ more)
      else readMain verbose (unknown ++ [argument]) rest

/-- Reads a command line. -/
def parse (arguments : List String) : Except Refusal Invocation := do
  mainGrammar.checkUnique arguments
  let (invocation, unknown) ← readMain false [] arguments
  if unknown.isEmpty then return invocation
  else throw (mainGrammar.refuse
    ("unrecognized arguments: " ++ String.intercalate " " unknown))

/-! ## Runs -/

/-- What a command leaves behind: an exit code and the two streams of output. -/
structure Outcome where
  exit : Nat
  output : String
  errors : List Text
  deriving DecidableEq, Repr

/-- What hosts and clocks are like, and the files. -/
structure System (σ : Type) where
  world : σ
  files : Files

/-- A text on a screen, where halves of pairs are shown by their code. -/
def shownText (t : Text) : String :=
  String.ofList (t.points.flatMap fun p => match p with
    | .char c => [c]
    | half => '\\' :: 'u' :: Text.hexadecimal 4 half.code)

/-- The name of a level, filled up to seven places. -/
def levelText (l : LogLevel) : String :=
  l.title ++ String.ofList (List.replicate (7 - l.title.length) ' ')

def logLine (e : LogEntry) : Text :=
  "[" ++ levelText e.level ++ "] " ++ e.source ++ " - " ++ e.message

/-- Debug records are shown on request only. -/
def shownLog (verbose : Bool) (log : List LogEntry) : List Text :=
  (log.filter fun e => verbose || e.level != .debug).map logLine

/-- A number as a setting. What was left blank counts as an empty list. -/
def settingJson : Option Int → Json
  | some n => .int n
  | none => .arr []

section

variable {σ : Type} (p : Platform σ)

def loadHost : Option String → Act σ (Host σ)
  | some spec => Found.load p.find spec
  | none => Act.fail (.blank .host)

def execute (o : RunOptions) : Act (Workspace σ) Nat := do
  let config ← Act.lift (Config.make (settingJson o.lifetime) (settingJson o.reportEvery))
  let host ← Workspace.inWorld (loadHost p o.host)
  let rules ← Act.lift (Rule.defaults config.lifetime.written)
  Batch.run ⟨o.events, o.diagnostics, o.checkpoint, rules, config⟩ ⟨host, p.now⟩

end

/-- The outcome of a command that ended with a fault. The last log record is shown
with its cause. -/
def failed (verbose : Bool) (log : List LogEntry) (last : LogEntry) (f : Fault) : Outcome :=
  ⟨1, "", shownLog verbose log ++
    [logLine last ++ "\nCause: " ++ f.message, "ERROR: " ++ f.message]⟩

/-- What is told about failures. -/
def failureLine (count : Nat) (path : Option String) : Text :=
  "VERIFICATION FAILED: " ++ toString count ++ " failure(s) -> " ++ Batch.shownPath path

def runOutcome (verbose : Bool) (o : RunOptions) (log : List LogEntry) :
    Except Fault Nat → Outcome
  | .error f => failed verbose log .runFailed f
  | .ok 0 => ⟨0, "RUN OK: no verification failures\n", shownLog verbose log⟩
  | .ok n => ⟨2, "", shownLog verbose log ++ [failureLine n o.diagnostics]⟩

def generateOutcome (verbose : Bool) (o : Generator.Order) (log : List LogEntry) :
    Except Fault Unit → Outcome
  | .error f => failed verbose log .generationFailed f
  | .ok () => ⟨0, "Generated " ++ toString (o.count.getD 0) ++ " events -> " ++
      Batch.shownPath o.path ++ "\n", shownLog verbose log⟩

section

variable {σ : Type} (p : Platform σ)

def perform (i : Invocation) (s : System σ) : Outcome × System σ :=
  let start : Workspace σ := ⟨s.world, s.files, .lenient⟩
  match i.command with
  | .run o =>
    let (result, w) := (execute p o).run start
    (runOutcome i.verbose o w.log.entries result, ⟨w.world, w.files⟩)
  | .generate o =>
    let act : Act (Workspace σ) Unit := o.carryOut RuleKind.all
    let (result, w) := act.run start
    (generateOutcome i.verbose o w.log.entries result, ⟨w.world, w.files⟩)

/-- Carries out a command line. -/
def carryOut (arguments : List String) (s : System σ) : Outcome × System σ :=
  match parse arguments with
  | .ok i => perform p i s
  | .error .help => (⟨0, "", []⟩, s)
  | .error (.usage program message) => (⟨2, "", [program ++ ": error: " ++ message]⟩, s)

end

end ExpiryAudit.CommandLine
