import ExpiryAudit.Clock
import ExpiryAudit.Host
import ExpiryAudit.Slot

/-!
# Reference stores

A store in memory stamps every write and drops an entry as soon as its lifetime
has passed. Three variants are broken on purpose: one forgets what is written to
single values, one keeps every entry for ages, and one refuses to open values.
-/
namespace ExpiryAudit

/-- What a reference store holds, each entry with the instant of its write. -/
structure Tables where
  values : SlotTable (Json × Int)
  lists : SlotTable (List (Int × Int))
  maps : SlotTable (List (Text × (Int × Int)))
  deriving Inhabited

def Tables.empty : Tables := ⟨.empty, .empty, .empty⟩

inductive Behaviour where
  | faithful
  | forgetful
  | everlasting
  | unavailable
  deriving DecidableEq, Repr

def Handle.slot (h : Handle) : Slot := ⟨h.key, h.name⟩

namespace Behaviour

/-- Longer than any run. -/
def ages : Setting := .ofInt (Int.pow 10 12) (by decide)

/-- The lifetime that a store gives to entries. -/
def lifetime (b : Behaviour) (h : Handle) : Lifetime :=
  if b = everlasting then .whole ages else h.lifetime

/-- An entry written at an instant is gone at another. -/
def gone (b : Behaviour) (h : Handle) (now written : Int) : Except Fault Bool :=
  (b.lifetime h).endsBy written now

/-- An entry written at an instant is still there at another. -/
def alive (b : Behaviour) (h : Handle) (now written : Int) : Except Fault Bool :=
  (b.lifetime h).endsAfter written now

end Behaviour

namespace Tables

/-- The answer to a read at an instant, and the tables without the entries that
the read has found to be gone. -/
def readAt (b : Behaviour) (h : Handle) (now : Int) (t : Tables) :
    Except Fault (Json × Tables) :=
  match h.kind with
  | .value =>
    match t.values.get? h.slot with
    | none => .ok (.null, t)
    | some (v, written) => do
      if ← b.gone h now written then return (.null, { t with values := t.values.erase h.slot })
      else return (v, t)
  | .list => do
    let kept ← Lifetime.keep (fun e => b.alive h now e.2) ((t.lists.get? h.slot).getD [])
    return (.arr (kept.map fun e => .int e.1), { t with lists := t.lists.set h.slot kept })
  | .map => do
    let kept ← Lifetime.keep (fun e => b.alive h now e.2.2) ((t.maps.get? h.slot).getD [])
    return (.obj (kept.map fun e => (e.1, .int e.2.1)), { t with maps := t.maps.set h.slot kept })

/-- The tables after a write at an instant. -/
def writeAt (h : Handle) (now : Int) (t : Tables) : Change → Tables
  | .replace v => { t with values := t.values.set h.slot (v, now) }
  | .append n =>
    { t with lists := t.lists.set h.slot ((t.lists.get? h.slot).getD [] ++ [(n, now)]) }
  | .put name n =>
    { t with
      maps := t.maps.set h.slot (Named.insert name (n, now) ((t.maps.get? h.slot).getD [])) }

def clear (h : Handle) (t : Tables) : Tables :=
  match h.kind with
  | .value => { t with values := t.values.erase h.slot }
  | .list => { t with lists := t.lists.erase h.slot }
  | .map => { t with maps := t.maps.erase h.slot }

end Tables

namespace Behaviour

variable {κ : Type}

/-- Values that this store forgets. -/
def forgets (b : Behaviour) : Change → Bool
  | .replace _ => b == forgetful
  | _ => false

/-- The store over a clock. Every read and every write that is kept reads the
clock once. -/
def host (b : Behaviour) (clock : Act κ Int) : Host (κ × Tables) where
  acquire h := if b = unavailable ∧ h.kind = .value then Act.fail .unavailable else pure ()
  read h := do
    let now ← clock.within (·.1) fun c s => (c, s.2)
    fun s => match s.2.readAt b h now with
      | .ok (v, tables) => (.ok v, s.1, tables)
      | .error f => (.error f, s)
  write h c :=
    if b.forgets c then pure ()
    else do
      let now ← clock.within (·.1) fun c s => (c, s.2)
      Act.modify fun s => (s.1, s.2.writeAt h now c)
  clear h := Act.modify fun s => (s.1, s.2.clear h)

end Behaviour

/-- A reference store and a verifier over one source of time. -/
def Behaviour.environment (b : Behaviour) : Environment (TimeSource × Tables) where
  host := b.host TimeSource.hostNow
  now := TimeSource.now.within (·.1) fun c s => (c, s.2)

end ExpiryAudit
