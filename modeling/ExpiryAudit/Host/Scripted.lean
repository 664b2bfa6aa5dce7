import ExpiryAudit.Clock
import ExpiryAudit.Host

/-!
# Scripted hosts

A host that keeps no state. Its answers are taken from queues, one for each name
and operation, and every call is recorded. An answer may be a fault. With an
empty queue a read finds nothing and other operations succeed.
-/
namespace ExpiryAudit

inductive Reply where
  | answer (value : Json)
  | fault (fault : Fault)

inductive HostCall where
  | acquire (handle : Handle)
  | read (handle : Handle)
  | write (handle : Handle) (change : Change)
  | clear (handle : Handle)

structure Script where
  reads : List (Text × List Reply)
  writes : List (Text × List Reply)
  clears : List (Text × List Reply)
  /-- The calls so far, the last one first. -/
  recent : List HostCall

namespace Script

def calls (s : Script) : List HostCall := s.recent.reverse

/-- The next reply for a name, and the queues without it. -/
def next (queues : List (Text × List Reply)) (name : Text) :
    Option Reply × List (Text × List Reply) :=
  match Named.find? queues name with
  | some (reply :: rest) => (some reply, Named.insert name rest queues)
  | _ => (none, queues)

/-- A value of the kind of the handle that holds nothing. -/
def nothing : HandleKind → Json
  | .value => .null
  | .list => .arr []
  | .map => .obj []

def outcome (fallback : Json) : Option Reply → Except Fault Json
  | none => .ok fallback
  | some (.answer v) => .ok v
  | some (.fault e) => .error e

def host : Host Script where
  acquire h s := (.ok (), { s with recent := .acquire h :: s.recent })
  read h s :=
    let (reply, reads) := next s.reads h.name
    (outcome (nothing h.kind) reply, { s with reads := reads, recent := .read h :: s.recent })
  write h c s :=
    let (reply, writes) := next s.writes h.name
    ((outcome .null reply).map fun _ => (),
      { s with writes := writes, recent := .write h c :: s.recent })
  clear h s :=
    let (reply, clears) := next s.clears h.name
    ((outcome .null reply).map fun _ => (),
      { s with clears := clears, recent := .clear h :: s.recent })

/-- A scripted host beside the clock of the verifier. -/
def environment : Environment (TimeSource × Script) := .apart TimeSource.now host

end Script
end ExpiryAudit
