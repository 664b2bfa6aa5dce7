import ExpiryAudit.Generator.Twister
import ExpiryAudit.Batch

/-!
# Generating events

Events over a small pool of keys, each with one random payload for every rule.
The random choices come from any source that draws a number between bounds and
chooses one of several texts.
-/
namespace ExpiryAudit

structure Randomness (γ : Type) where
  between : Int → Int → γ → Int × γ
  choose : Array String → γ → String × γ

namespace Randomness

/-- The choices of the Mersenne Twister. -/
def twister : Randomness Twister where
  between low high t :=
    let (n, t) := t.below (high - low + 1).toNat
    (low + n, t)
  choose options t :=
    let (n, t) := t.below options.size
    (options[n]?.getD "", t)

end Randomness

namespace RuleKind

def mapKeys : Array String := #["a", "b", "c", "d", "e"]

/-- A random payload that the rule takes. -/
def random {γ : Type} (source : Randomness γ) (g : γ) : RuleKind → Json × γ
  | value | list =>
    let (n, g) := source.between 0 1000 g
    (.int n, g)
  | map =>
    let (name, g) := source.choose mapKeys g
    let (n, g) := source.between 0 1000 g
    (.arr [.str name, .int n], g)
  | reducing =>
    let (n, g) := source.between 1 100 g
    (.int n, g)

end RuleKind

namespace Generator

variable {γ : Type}

/-- A payload for every rule, as it is written. -/
def updates (source : Randomness γ) (g : γ) (done : List (Text × Json)) :
    List RuleKind → Except Fault (List (Text × Json) × γ)
  | [] => .ok (done, g)
  | k :: rest => do
    let (raw, g) := k.random source g
    let written ← k.encode (.raw raw)
    updates source g (Named.insert k.id written done) rest

/-- One event; the key is chosen before the payloads. -/
def event (source : Randomness γ) (keys : Array String) (rules : List RuleKind) (g : γ) :
    Except Fault (Json × γ) := do
  let (key, g) := source.choose keys g
  let (written, g) ← updates source g [] rules
  return (.obj [("key", .str key), ("updates", .obj written)], g)

/-- The lines of a number of events; those done are in reverse. -/
def eventLines (source : Randomness γ) (keys : Array String) (rules : List RuleKind)
    (done : List String) (g : γ) : Nat → Except Fault (List String)
  | 0 => .ok done.reverse
  | count + 1 => do
    let (e, g) ← event source keys rules g
    eventLines source keys rules (e.line :: done) g count

def keyPool (keys : Nat) : Array String := (Array.range keys).map fun i => "key-" ++ toString i

/-- The number of events, unless it is negative or was left blank. -/
def eventCount : Option Int → Except Fault Nat
  | some n => if n < 0 then .error (.eventCount n) else .ok n.toNat
  | none => .error (.blank .eventCount)

/-- The number of keys, unless there are none or it was left blank. -/
def keyCount : Option Int → Except Fault Nat
  | some n => if n ≤ 0 then .error (.keyCount n) else .ok n.toNat
  | none => .error (.blank .keyCount)

/-- The lines of a file of random events. -/
def generate (source : Randomness γ) (g : γ) (count keys : Int) (rules : List RuleKind) :
    Except Fault (List String) := do
  let count ← eventCount (some count)
  let keys ← keyCount (some keys)
  eventLines source (keyPool keys) rules [] g count

def defaultCount : Int := 1000

def defaultSeed : Int := 42

def defaultKeys : Int := 10

/-- What a file of random events is made from; what was left blank is missing. -/
structure Order where
  path : Option String
  count : Option Int
  seed : Option Int
  keys : Option Int
  deriving DecidableEq, Repr

/-- The lines that an order asks for. -/
def Order.lines (o : Order) (rules : List RuleKind) : Except Fault (List String) := do
  let count ← eventCount o.count
  let keys ← keyCount o.keys
  match o.seed with
  | some seed => eventLines .twister (keyPool keys) rules [] (Twister.ofSeed seed) count
  | none => throw (.blank .seed)

/-- Writes a file of random events. Nothing is written when anything is refused. -/
def Order.carryOut {σ : Type} (o : Order) (rules : List RuleKind) : Act (Workspace σ) Unit := do
  let lines ← Act.lift (o.lines rules)
  let path ← Act.lift (Batch.neededPath o.path)
  Workspace.writeFile path (Batch.linesText lines)

end Generator
end ExpiryAudit
