import ExpiryAudit.Act
import ExpiryAudit.Rule.Expectation

/-!
# Hosts

A host keeps state under keys and names. A handle on a piece of state is opened
with a lifetime, and then read, written or cleared. Everything a host does is an
act on the host's own state; a clock is an act that reads the time.
-/
namespace ExpiryAudit

inductive HandleKind where
  | value
  | list
  | map
  deriving DecidableEq, Repr

/-- A piece of state under a key and a name. -/
structure Handle where
  kind : HandleKind
  key : Text
  name : Text
  lifetime : Lifetime

/-- What is written through a handle: a value in place of the old one, one more
element of a list, or one entry of a map. -/
inductive Change where
  | replace (value : Json)
  | append (amount : Int)
  | put (name : Text) (amount : Int)

/-- The arguments of the write. -/
def Change.arguments : Change → List Json
  | replace v => [v]
  | append n => [.int n]
  | put name n => [.str name, .int n]

structure Host (σ : Type) where
  acquire : Handle → Act σ Unit
  read : Handle → Act σ Json
  write : Handle → Change → Act σ Unit
  clear : Handle → Act σ Unit

/-- A host and the clock of the verifier, over one state. -/
structure Environment (σ : Type) where
  host : Host σ
  now : Act σ Int

namespace Host

variable {σ τ : Type}

/-- The host on a part of a larger state. -/
def within (part : τ → σ) (replace : σ → τ → τ) (h : Host σ) : Host τ where
  acquire s := (h.acquire s).within part replace
  read s := (h.read s).within part replace
  write s c := (h.write s c).within part replace
  clear s := (h.clear s).within part replace

end Host

/-- A clock and a host that share nothing. -/
def Environment.apart {κ η : Type} (clock : Act κ Int) (host : Host η) :
    Environment (κ × η) where
  host := host.within (·.2) fun h s => (s.1, h)
  now := clock.within (·.1) fun c s => (c, s.2)

/-! ## The rules at work on a host -/

namespace RuleKind

def handleKind : RuleKind → HandleKind
  | value => .value
  | list => .list
  | map => .map
  | reducing => .value

end RuleKind

namespace Rule

variable {σ : Type}

/-- The handle of a rule for a key. -/
def handle (r : Rule) (key : Text) : Handle := ⟨r.kind.handleKind, key, r.id, r.lifetime⟩

/-- What a read of a handle counts as: a list is copied item by item and a map
entry by entry. -/
def observed (r : Rule) (v : Json) : Except Fault Reading :=
  match r.kind with
  | .value | .reducing => .ok (.plain v)
  | .list => do return .plain (.arr (← v.elements))
  | .map => match v with
    | .obj members => .ok (.plain (.obj members))
    | v => do return .ofDictionary (← Json.Dictionary.ofJson v)

/-- Reads the state. -/
def read (r : Rule) (host : Host σ) (h : Handle) : Act σ Reading := do
  let v ← host.read h
  Act.lift (r.observed v)

/-- Applies a payload to the state. Nothing is touched unless the rule takes the
payload. The running sum is read before it is replaced. -/
def apply (r : Rule) (host : Host σ) (h : Handle) (p : Payload) : Act σ Unit :=
  match r.kind with
  | .value => do
    let n ← Act.lift (p.amount r.id)
    host.write h (.replace (.int n))
  | .list => do
    let n ← Act.lift (p.amount r.id)
    host.write h (.append n)
  | .map => do
    let (name, n) ← Act.lift p.mapEntry
    host.write h (.put name n)
  | .reducing => do
    let n ← Act.lift (p.amount r.id)
    let current ← host.read h
    let sum ← Act.lift (addTo current (.raw (.int n)))
    host.write h (.replace sum)

/-- One cycle of reading, updating and reading again, between two readings of the
clock. -/
def observe (r : Rule) (env : Environment σ) (h : Handle) (p : Payload) :
    Act σ Observation := do
  let before ← env.now
  let valueBefore ← r.read env.host h
  r.apply env.host h p
  let valueAfter ← r.read env.host h
  let after ← env.now
  return ⟨before, valueBefore, p, valueAfter, after⟩

end Rule
end ExpiryAudit
