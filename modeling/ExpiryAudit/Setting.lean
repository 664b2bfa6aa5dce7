import ExpiryAudit.Fault
import ExpiryAudit.Json.Agreement

/-!
# Settings

The lifetime of entries and the number of updates between two statistics lines
are positive whole numbers. A truth value counts as a whole number and is shown
as it was written.
-/
namespace ExpiryAudit

/-- A positive whole number and the way it was written. -/
structure Setting where
  amount : Int
  written : Json
  amount_pos : 0 < amount

namespace Setting

def ofInt (n : Int) (h : 0 < n) : Setting := ⟨n, .int n, h⟩

/-- Reads a named setting. -/
def make (name : String) (written : Json) : Except Fault Setting :=
  match written.whole? with
  | some n => if h : 0 < n then .ok ⟨n, written, h⟩ else .error (.setting name written)
  | none => .error (.setting name written)

@[simp] theorem make_int {n : Int} (name : String) (h : 0 < n) :
    make name (.int n) = .ok (ofInt n h) := by
  simp [make, Json.whole?, h, ofInt]

end Setting

structure Config where
  lifetime : Setting
  reportEvery : Setting

namespace Config

def defaultLifetime : Int := 100

def defaultReportEvery : Int := 1000

def make (lifetime reportEvery : Json) : Except Fault Config := do
  return ⟨← Setting.make "ttl_ms" lifetime, ← Setting.make "report_every" reportEvery⟩

def display (c : Config) : String :=
  "VerifierConfig(ttl_ms=" ++ c.lifetime.written.display ++ ", report_every=" ++
    c.reportEvery.written.display ++ ")"

end Config
end ExpiryAudit
