import ExpiryAudit.CommandLine
import ExpiryAudit.Host.Registry

/-!
# The program

The files that a command reads are loaded, the command is carried out, and the
files that it has written are stored. The clock stands still while it runs.
-/
namespace ExpiryAudit.Program

/-- The files that a command reads. -/
def inputs : CommandLine.Command → List String
  | .run o => o.events.toList ++ o.checkpoint.toList.filter fun path => !path.isEmpty
  | .generate _ => []

/-- The files that a command writes. -/
def outputs : CommandLine.Command → List String
  | .run o => o.diagnostics.toList ++ o.checkpoint.toList.filter fun path => !path.isEmpty
  | .generate o => o.path.toList

/-- The paths on the way to a path, and the path itself. -/
def onTheWay (p : Path) : List Path :=
  (List.range (p.names.length + 1)).map fun count => ⟨p.root, p.names.take count⟩

/-- The number of the problem that a directory is read as a file. -/
def isDirectoryNumber (e : IO.Error) : Bool :=
  match e with
  | .inappropriateType _ number _ => number.toNat == FileProblem.isDirectory.number
  | _ => false

/-- What is really at a path. -/
def nodeAt? (path : String) : IO (Option Node) := do
  try
    let bytes ← IO.FS.readBinFile path
    return some (.file (FileContent.ofBytes bytes.toList))
  catch e => return if isDirectoryNumber e then some .directory else none

def loadNode (files : Files) (p : Path) : IO Files := do
  match files.locate p with
  | .error _ => return files
  | .ok place => match ← nodeAt? p.text with
    | some node => return files.set place node
    | none => return files

/-- Loads all that a command may come across. -/
def load (command : CommandLine.Command) (here : Location) : IO Files :=
  let read := (inputs command).flatMap fun path => onTheWay (.written path)
  let written := (inputs command ++ outputs command).flatMap fun path => onTheWay (.tidy path)
  (read ++ written).foldlM loadNode ⟨here, []⟩

def placeText (place : Location) : String := "/" ++ String.intercalate "/" place

/-- Stores a node that differs from what was loaded. -/
def storeNode (loaded : Files) (place : Location) (node : Node) : IO Unit := do
  match node, loaded.node? place with
  | .directory, none => IO.FS.createDir (placeText place)
  | .file (.text new), some (.file (.text old)) =>
    if new ≠ old then IO.FS.writeFile (placeText place) new
  | .file (.text new), _ => IO.FS.writeFile (placeText place) new
  | _, _ => return

def commandOf (arguments : List String) : Option CommandLine.Command :=
  match CommandLine.parse arguments with
  | .ok i => some i.command
  | .error _ => none

end ExpiryAudit.Program

open ExpiryAudit in
def main (arguments : List String) : IO UInt32 := do
  let here := ((← IO.currentDir).toString.splitOn "/").filter fun name => name != ""
  let loaded ← match Program.commandOf arguments with
    | some command => Program.load command here
    | none => pure ⟨here, []⟩
  let now ← IO.monoMsNow
  let start : CommandLine.System (TimeSource × Tables) := ⟨(.stepping now 0, .empty), loaded⟩
  let (outcome, final) := CommandLine.carryOut Behaviour.platform arguments start
  final.files.nodes.forM fun (place, node) => Program.storeNode loaded place node
  for line in outcome.errors do IO.eprintln (CommandLine.shownText line)
  IO.print outcome.output
  return UInt32.ofNat outcome.exit
