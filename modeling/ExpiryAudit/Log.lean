import ExpiryAudit.Detector
import ExpiryAudit.Reading
import ExpiryAudit.Statistics

/-!
# Log records

What a run reports while it goes on, each record with its level, the part of the
program that it comes from, and its message. A record with a number that has too many
digits cannot be written: a strict log makes a fault of it, any other log leaves it out.
-/
namespace ExpiryAudit

inductive LogLevel where
  | debug
  | info
  | warning
  | error
  deriving DecidableEq, Repr

def LogLevel.title : LogLevel → String
  | debug => "DEBUG"
  | info => "INFO"
  | warning => "WARNING"
  | error => "ERROR"

inductive LogEntry where
  | tooSlow (window : Window) (lifetime : Int)
  | clash (window earlier : Window) (lifetime : Int)
  | reset (key rule : Text)
  | summary (summary : Summary)
  | failure (key rule : Text) (before after : Reading)
  | processed (event : Nat) (key : Text) (failures : Nat)
  | restoring (path : String)
  | reading (path : String)
  | finished (events updates clashes failures : Nat)
  | diagnosticsSaved (path : String) (count : Nat)
  | checkpointSaved (path digest : String)
  | runFailed
  | generationFailed

namespace LogEntry

def level : LogEntry → LogLevel
  | tooSlow _ _ | clash _ _ _ | reset _ _ | processed _ _ _ => .debug
  | failure _ _ _ _ => .warning
  | runFailed | generationFailed => .error
  | _ => .info

def source : LogEntry → String
  | tooSlow _ _ | clash _ _ _ => "ttl_verifier.clash"
  | summary _ => "ttl_verifier.stats"
  | runFailed | generationFailed => "ttl_verifier.cli"
  | _ => "ttl_verifier.engine"

def windowText (w : Window) : String :=
  "[" ++ toString w.before ++ ", " ++ toString w.after ++ "]"

def message : LogEntry → Text
  | tooSlow w lifetime =>
    "Update too slow: window=" ++ windowText w ++ " ttl=" ++ toString lifetime
  | clash w earlier lifetime =>
    "Update " ++ windowText w ++ " clashes with " ++ windowText earlier ++
      " (ttl=" ++ toString lifetime ++ ")"
  | reset key rule => "Reset key=" ++ key ++ " rule=" ++ rule ++ " after clash"
  | summary s =>
    "Avg update chain length: " ++ s.averageLength.fixed 2 ++ ", clash stat: " ++
      toString s.clashes ++ "/" ++ toString s.updates ++ " (" ++ s.clashRatio.fixed 4 ++ ")"
  | failure key rule before after =>
    "Verification failed: key=" ++ key ++ " rule=" ++ rule ++ " before=" ++ before.display ++
      " after=" ++ after.display
  | processed event key failures =>
    "Event #" ++ toString event ++ " processed: key=" ++ key ++ " failures=" ++
      toString failures
  | restoring path => "Restoring history from " ++ path
  | reading path => "Processing events from " ++ path
  | finished events updates clashes failures =>
    "Processed " ++ toString events ++ " events (" ++ toString updates ++ " updates, " ++
      toString clashes ++ " clashes, " ++ toString failures ++ " failures)"
  | diagnosticsSaved path count =>
    "Diagnostics saved -> " ++ path ++ " (" ++ toString count ++ " records)"
  | checkpointSaved path digest =>
    "History checkpoint saved -> " ++ path ++ " (hash=" ++ digest ++ ")"
  | runFailed => "Run failed"
  | generationFailed => "Generation failed"

/-- No number of the record has too many digits. -/
def isWritable : LogEntry → Bool
  | tooSlow w lifetime => w.isWritable && Text.isWritable lifetime
  | clash w earlier lifetime => w.isWritable && earlier.isWritable && Text.isWritable lifetime
  | failure _ _ before after => before.isWritable && after.isWritable
  | _ => true

end LogEntry

/-- The records of a run. -/
structure Log where
  /-- A record that cannot be written is a fault. -/
  isStrict : Bool
  /-- The records, the last one first. -/
  recent : List LogEntry

namespace Log

/-- A log without records, which leaves out what cannot be written. -/
def lenient : Log := ⟨false, []⟩

/-- A log without records, for which a record that cannot be written is a fault. -/
def strict : Log := ⟨true, []⟩

/-- The records in their order. -/
def entries (l : Log) : List LogEntry := l.recent.reverse

/-- The log without its records. -/
def cleared (l : Log) : Log := { l with recent := [] }

def add (e : LogEntry) : Act Log Unit := fun l =>
  if e.isWritable then (.ok (), { l with recent := e :: l.recent })
  else if l.isStrict then (.error .unwritable, l)
  else (.ok (), l)

theorem run_add_of_isWritable {e : LogEntry} (h : e.isWritable = true) (l : Log) :
    (add e).run l = (.ok (), { l with recent := e :: l.recent }) := by
  simp [add, Act.run, h]

/-- A log that is not strict takes every record or leaves it out. -/
theorem run_add_of_not_isStrict (e : LogEntry) {l : Log} (h : l.isStrict = false) :
    ((add e).run l).1 = .ok () := by
  unfold add Act.run
  split
  · rfl
  · simp [h]

end Log

/-- The record of an ambiguous verdict. A clean one has none. -/
def Detector.logOf (d : Detector) (w : Window) : Detector.Verdict → Option LogEntry
  | .clean => none
  | .tooSlow => some (.tooSlow w d.lifetime)
  | .clash earlier => some (.clash w earlier d.lifetime)

end ExpiryAudit
