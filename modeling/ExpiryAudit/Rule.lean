import ExpiryAudit.Lifetime
import ExpiryAudit.Update

/-!
# Rules

A rule watches one kind of state: a single value, a list that only grows, a map,
or a running sum. It says which payloads it takes and how they are written.
-/
namespace ExpiryAudit

inductive RuleKind where
  | value
  | list
  | map
  | reducing
  deriving DecidableEq, Repr

namespace RuleKind

/-- Every kind, in the order in which rules are set up. -/
def all : List RuleKind := [value, list, map, reducing]

/-- The name under which a rule finds its payload and its state. -/
def id : RuleKind → Text
  | value => "value"
  | list => "list"
  | map => "map"
  | reducing => "reducing"

theorem id_injective {k l : RuleKind} (h : k.id = l.id) : k = l := by
  cases k <;> cases l <;> first | rfl | exact absurd h (by decide)

def ofId? (name : Text) : Option RuleKind := all.find? fun k => k.id == name

def title : RuleKind → String
  | value => "ValueRule"
  | list => "ListRule"
  | map => "MapRule"
  | reducing => "ReducingRule"

/-- The payload is one that the rule takes. -/
def validate : RuleKind → Payload → Except Fault Unit
  | map, p => do let _ ← p.mapEntry
  | k, p => do let _ ← p.amount k.id

/-- The written form of a payload. The map rule writes pairs only. -/
def encode : RuleKind → Encoder
  | map, p => do
    let (name, n) ← p.mapEntry
    return .arr [.str name, .int n]
  | _, p => .ok p.json

/-- The payload of a written form. The map rule reads pairs only. -/
def decode : RuleKind → Decoder
  | map, v => do
    let (name, n) ← (Payload.raw v).mapEntry
    return .entry name n
  | _, v => .ok (.raw v)

end RuleKind

/-- A kind of state and the lifetime of its entries. -/
structure Rule where
  kind : RuleKind
  lifetime : Lifetime

namespace Rule

def id (r : Rule) : Text := r.kind.id

def make (kind : RuleKind) (lifetime : Json) : Except Fault Rule := do
  return ⟨kind, ← Lifetime.make lifetime⟩

/-- One rule of every kind. -/
def defaults (lifetime : Json) : Except Fault (List Rule) :=
  RuleKind.all.mapM fun k => make k lifetime

def display (r : Rule) : String :=
  r.kind.title ++ "(ttl_ms=" ++ r.lifetime.written.display ++ ")"

/-- A window has expired at an instant. -/
def expired (r : Rule) (w : Window) (now : Int) : Except Fault Bool :=
  r.lifetime.endsBefore w.after now

/-- A window has not expired at an instant. -/
def lasts (r : Rule) (w : Window) (now : Int) : Except Fault Bool :=
  (r.expired w now).map (!·)

end Rule

/-- The encoder of a rule name; names without a rule have the plain one. -/
def encoderOf (rules : List RuleKind) (name : Text) : Encoder :=
  match rules.find? fun k => k.id == name with
  | some k => k.encode
  | none => .plain

/-- The decoder of a rule name; names without a rule have the plain one. -/
def decoderOf (rules : List RuleKind) (name : Text) : Decoder :=
  match rules.find? fun k => k.id == name with
  | some k => k.decode
  | none => .plain

end ExpiryAudit
