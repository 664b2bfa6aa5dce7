import ExpiryAudit.Proofs.UnbrokenRuns

/-!
# Ignored lifetimes

A store that keeps every entry for ages shows all updates since the last reset. This is
found out exactly when a rule expects less of them: when the last update, any update, or
the last update of some map key has expired.
-/
namespace ExpiryAudit

namespace Expected

variable {lifetime now : Int} {updates : List Update}

end Expected

namespace Auditor

section Judged

variable {a : Auditor (Nat × Tables)} {lifetime : Int} {r : Rule} {v : Verification}
  {u stamp : Update} {stamps : List Update} {first second : Int} {before after : Json}
  {holds : Bool}

end Judged

/-! ## Stores that drop nothing -/

section Close

variable {readings : Nat → Int} {lifetime : Int}

end Close

end Auditor
end ExpiryAudit
