import ExpiryAudit.Act

/-!
# Clocks

A clock that is read by host and verifier alike moves on by a fixed step with
every reading. A verifier may have a script of readings of its own instead; when
it is used up, the clock fails.
-/
namespace ExpiryAudit

structure TimeSource where
  time : Int
  step : Int
  /-- The readings of the verifier, if they are scripted. -/
  script : Option (List Int)
  deriving Inhabited

namespace TimeSource

def stepping (start step : Int) : TimeSource := ⟨start, step, none⟩

/-- Scripted readings beside a host clock that stands still. -/
def scripted (script : List Int) (time : Int) : TimeSource := ⟨time, 0, some script⟩

/-- A reading by the host. -/
def hostNow : Act TimeSource Int := fun c => (.ok c.time, { c with time := c.time + c.step })

/-- A reading by the verifier. -/
def now : Act TimeSource Int := fun c =>
  match c.script with
  | none => hostNow c
  | some [] => (.error .clockExhausted, c)
  | some (t :: rest) => (.ok t, { c with script := some rest })

def advance (duration : Int) (c : TimeSource) : TimeSource := { c with time := c.time + duration }

def set (time : Int) (c : TimeSource) : TimeSource := { c with time := time }

end TimeSource
end ExpiryAudit
