import ExpiryAudit.Act
import ExpiryAudit.Files.Content
import ExpiryAudit.Files.Path
import ExpiryAudit.Named

/-!
# Files

Files and directories by their locations, and one directory to work in. A path is
followed name by name, and every name but the last has to lead to a directory. A
file that has been stored under a path is what is read there.
-/
namespace ExpiryAudit

/-- The names from the root of all files on. -/
abbrev Location := List String

inductive Node where
  | directory
  | file (content : FileContent)

structure Files where
  /-- The directory that paths start from. -/
  here : Location
  nodes : List (Location × Node)

namespace Files

/-- A directory to work in, with nothing in it. -/
def empty : Files := ⟨["work"], []⟩

/-- What is at a location. The directories above the one to work in are there. -/
def node? (f : Files) (place : Location) : Option Node :=
  if place.isPrefixOf f.here then some .directory else Named.find? f.nodes place

def isDirectory (f : Files) (place : Location) : Bool :=
  match f.node? place with
  | some .directory => true
  | _ => false

def set (place : Location) (node : Node) (f : Files) : Files :=
  { f with nodes := Named.insert place node f.nodes }

/-- The most bytes that a name has. -/
def longestName : Nat := 255

/-- The most bytes that a path has. -/
def longestPath : Nat := 4095

/-- Follows one name from a location. -/
def step (f : Files) (place : Location) (name : String) : Except FileProblem Location :=
  match f.node? place with
  | none => .error .missing
  | some (.file _) => .error .notDirectory
  | some .directory =>
    if name = "" ∨ name = "." then .ok place
    else if name = ".." then .ok place.dropLast
    else if longestName < name.utf8ByteSize then .error .nameTooLong
    else .ok (place ++ [name])

def walk (f : Files) (place : Location) : List String → Except FileProblem Location
  | [] => .ok place
  | name :: rest => do walk f (← f.step place name) rest

/-- The location that a path leads to. There need not be anything. -/
def locate (f : Files) (p : Path) : Except Fault Location :=
  if p.text.toList.contains '\x00' then .error .nullByte
  else if p.text = "" then .error (.file .missing p.text)
  else if longestPath < p.text.utf8ByteSize then .error (.file .nameTooLong p.text)
  else (f.walk (if p.isAbsolute then [] else f.here) p.names).mapError
    fun problem => .file problem p.text

def read (f : Files) (p : Path) : Except Fault FileContent := do
  match f.node? (← f.locate p) with
  | none => .error (.file .missing p.text)
  | some .directory => .error (.file .isDirectory p.text)
  | some (.file content) => .ok content

/-- The content of a file that may be missing. -/
def find? (f : Files) (p : Path) : Except Fault (Option FileContent) :=
  match f.read p with
  | .ok content => .ok (some content)
  | .error .nullByte | .error (.file .missing _) | .error (.file .notDirectory _) => .ok none
  | .error e => .error e

/-! ## Changes -/

def createDirectory (p : Path) : Act Files Unit := fun f =>
  match f.locate p with
  | .error e => (.error e, f)
  | .ok place =>
    if (f.node? place).isSome then (.error (.file .present p.text), f)
    else (.ok (), f.set place .directory)

/-- A path leads to a directory. -/
def leadsToDirectory (f : Files) (p : Path) : Bool :=
  match f.locate p with
  | .ok place => f.isDirectory place
  | .error _ => false

/-- Creates a directory unless there is one. -/
def ensureDirectory (p : Path) : Act Files Unit := fun f =>
  if f.leadsToDirectory p then (.ok (), f) else createDirectory p f

/-- Creates a directory, with those above it if they are missing. The names come
last one first. -/
def ensureDirectories (root : String) : List String → Act Files Unit
  | [] => ensureDirectory ⟨root, []⟩
  | name :: above => fun f =>
    let p : Path := ⟨root, (name :: above).reverse⟩
    match (ensureDirectory p).run f with
    | (.error (.file .missing _), g) =>
      (do ensureDirectories root above; ensureDirectory p : Act Files Unit).run g
    | result => result

/-- Puts a content in the place of a file. -/
def replace (p : Path) (content : FileContent) : Act Files Unit := fun f =>
  match f.locate p with
  | .error e => (.error e, f)
  | .ok place =>
    if f.isDirectory place then (.error (.file .isDirectory p.text), f)
    else (.ok (), f.set place (.file content))

/-- Stores a file, with the directories above it. -/
def store (p : Path) (content : FileContent) : Act Files Unit := do
  ensureDirectories p.parent.root p.parent.names.reverse
  replace p content

def write (p : Path) (text : String) : Act Files Unit := store p (.text text)

/-- The files in the directory to work in, by their paths from there. -/
def listing (f : Files) : List (String × FileContent) :=
  f.nodes.filterMap fun (place, node) =>
    match node with
    | .file content =>
      if f.here.isPrefixOf place then
        some (String.intercalate "/" (place.drop f.here.length), content)
      else none
    | .directory => none

/-! ## Reading after storing -/

theorem node?_set_self {f : Files} {place : Location} (node : Node)
    (h : f.isDirectory place = false) : (f.set place node).node? place = some node := by
  have hp : place.isPrefixOf f.here = false := by
    cases hp : place.isPrefixOf f.here with
    | false => rfl
    | true => simp [isDirectory, node?, hp] at h
  simp [node?, set, hp, Named.find?_insert]

theorem node?_set_of_ne {f : Files} {place other : Location} (node : Node) (h : other ≠ place) :
    (f.set place node).node? other = f.node? other := by
  simp [node?, set, Named.find?_insert, h]

/-- A step that a path takes does not change when a file is put where no directory
is. -/
theorem step_set {f : Files} {place start next : Location} {name : String} (node : Node)
    (h : f.isDirectory place = false) (hs : f.step start name = .ok next) :
    (f.set place node).step start name = .ok next := by
  have hne : start ≠ place := by
    rintro rfl
    unfold step at hs
    unfold isDirectory at h
    split at h
    · cases h
    · next hd =>
      split at hs <;> first | cases hs | exact absurd ‹_› hd
  unfold step at hs ⊢
  rw [node?_set_of_ne node hne]
  exact hs

theorem walk_set {f : Files} {place : Location} {names : List String} (node : Node)
    (h : f.isDirectory place = false) :
    ∀ {start last : Location}, f.walk start names = .ok last →
      (f.set place node).walk start names = .ok last := by
  induction names with
  | nil => exact fun hw => hw
  | cons name rest ih =>
    intro start last hw
    unfold walk at hw ⊢
    cases hs : f.step start name with
    | error e => rw [hs] at hw; cases hw
    | ok next =>
      rw [hs] at hw
      rw [step_set node h hs]
      exact ih hw

theorem locate_set {f : Files} {p : Path} {place other : Location} (node : Node)
    (h : f.isDirectory other = false) (hl : f.locate p = .ok place) :
    (f.set other node).locate p = .ok place := by
  unfold locate at hl ⊢
  split at hl
  · cases hl
  next h1 =>
  split at hl
  · cases hl
  next h2 =>
  split at hl
  · cases hl
  next h3 =>
  rw [if_neg h1, if_neg h2, if_neg h3]
  cases hw : f.walk (if p.isAbsolute then [] else f.here) p.names with
  | error e => rw [hw] at hl; cases hl
  | ok last =>
    rw [show (f.set other node).here = f.here from rfl, walk_set node h hw]
    rw [hw] at hl
    exact hl

/-- What has been put under a path is read there. -/
theorem read_of_replace {f g : Files} {p : Path} {content : FileContent}
    (h : (replace p content).run f = (.ok (), g)) : g.read p = .ok content := by
  simp only [replace, Act.run] at h
  split at h
  · simp at h
  next place hl =>
  split at h
  · simp at h
  next hd =>
  have hd : f.isDirectory place = false := by simpa using hd
  obtain rfl : f.set place (.file content) = g := by simpa using h
  simp [read, locate_set _ hd hl, node?_set_self _ hd, bind, Except.bind]

/-- What has been stored under a path is read there. -/
theorem read_of_store {f g : Files} {p : Path} {content : FileContent}
    (h : (store p content).run f = (.ok (), g)) : g.read p = .ok content := by
  unfold store at h
  rw [Act.run_bind] at h
  cases hr : (ensureDirectories p.parent.root p.parent.names.reverse).run f with
  | mk result between =>
    rw [hr] at h
    cases result with
    | error e => simp at h
    | ok _ => exact read_of_replace h

end Files
end ExpiryAudit
