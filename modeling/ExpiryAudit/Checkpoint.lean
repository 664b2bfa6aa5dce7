import ExpiryAudit.Digest
import ExpiryAudit.Files
import ExpiryAudit.History

/-!
# Checkpoints

A history is saved with a version number and a digest of everything else that is
saved. The digest is taken of the shortest JSON text with sorted members, and a
checkpoint whose digest differs is refused.
-/
namespace ExpiryAudit.Checkpoint

def version : Int := 1

def digestName : Text := "checkpoint_hash"

/-- The digest of all members but the digest itself. -/
def digest (members : List (Text × Json)) : String :=
  Digest.ofText (Json.obj (Named.erase digestName members)).canonical

/-- The digest of a dictionary. Its keys need not be texts, but then they have to be
of one kind. -/
def digestOf (data : Json) : Except Fault String := do
  let entries ← Json.Dictionary.ofJson data
  match entries.members? with
  | some members => return digest members
  | none =>
    let kept : Json.Dictionary := entries.filter fun e => !e.1.same (.text digestName)
    return Digest.ofText (String.ofList ((← kept.sortedObject).write .compact))

/-- What is saved for a history, without the digest. -/
def payload (rules : List RuleKind) (h : History) : Except Fault (List (Text × Json)) := do
  return [("version", .int version), ("history", ← h.toJson (encoderOf rules))]

/-- What is saved for a history. -/
def signed (members : List (Text × Json)) : Json :=
  .obj (Named.insert digestName (.str (digest members)) members)

/-- The text of a checkpoint and its digest. -/
def save (rules : List RuleKind) (h : History) : Except Fault (String × String) := do
  let members ← payload rules h
  let written ← (signed members).writable
  return (written.document, digest members)

/-- Whether a stored digest counts: any value that is neither empty nor zero. -/
def refuses (stored : Json) (expected : String) : Bool :=
  stored.truth && !stored.agrees (.str expected)

/-- The history of a checkpoint that was read as a value. -/
def restore (rules : List RuleKind) (path : String) (data : Json) : Except Fault History := do
  match data with
  | .obj members =>
    let found ← ((Named.find? members "version").getD (.int version)).toInt
    if found ≠ version then throw (.checkpointVersion path found)
    let stored := (Named.find? members digestName).getD (.str "")
    let expected := digest members
    if refuses stored expected then throw (.checkpointHash expected stored)
    History.ofJson (decoderOf rules) ((Named.find? members "history").getD (.obj []))
  | data => throw (.checkpointKind path data.kindName)

/-- Reads a checkpoint. A file that does not exist holds an empty history. -/
def load (rules : List RuleKind) (path : String) (files : Files) : Except Fault History := do
  match ← files.find? (.tidy path) with
  | none => return .empty
  | some content =>
    let data ← (Json.parse (← content.read)).mapError .malformed
    restore rules path data

end ExpiryAudit.Checkpoint
