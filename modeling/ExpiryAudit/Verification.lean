import ExpiryAudit.Rule.Expectation

/-!
# Verifications

Everything that a rule looks at when it judges one update, and the line that
reports it when the judgement is negative.
-/
namespace ExpiryAudit

structure Verification where
  key : Text
  rule : Rule
  previous : List Update
  observation : Observation

namespace Verification

def holds (v : Verification) : Except Fault Bool := v.rule.verify v.previous v.observation

/-- Everything about the verification, with members in order. Payloads are encoded before
anything is written. -/
def written (v : Verification) : Except Fault Json := do
  let previous ← v.previous.mapM fun u => u.toJson v.rule.kind.encode
  let payload ← v.rule.kind.encode v.observation.payload
  let previous ← (Json.arr previous).writable
  let observation ← v.observation.written payload
  return .obj [("key", .str v.key), ("prev_updates", previous.sorted),
    ("rule_id", .str v.rule.id), ("update_context", observation)]

/-- The diagnostic line. -/
def line (v : Verification) : Except Fault String := do
  return String.ofList ((← v.written).write .spaced)

end Verification
end ExpiryAudit
