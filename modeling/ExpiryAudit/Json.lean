import ExpiryAudit.Binary64.Decimal
import ExpiryAudit.Named
import ExpiryAudit.Text

/-!
# JSON values

Whole numbers and double precision numbers are different values, and an object
keeps the order in which its members were first written.
-/
namespace ExpiryAudit

inductive Json where
  | null
  | bool (value : Bool)
  | int (value : Int)
  | float (value : Binary64)
  | str (value : Text)
  | arr (items : List Json)
  | obj (members : List (Text × Json))
  deriving Inhabited

namespace Json

/-- The name a kind of value goes by in messages. -/
def kindName : Json → String
  | null => "NoneType"
  | bool _ => "bool"
  | int _ => "int"
  | float _ => "float"
  | str _ => "str"
  | arr _ => "list"
  | obj _ => "dict"

/-- Emptiness of a container and zero of a number count as false. -/
def truth : Json → Bool
  | null => false
  | bool b => b
  | int n => n != 0
  | float x => x.isNonzero
  | str s => !s.isEmpty
  | arr items => !items.isEmpty
  | obj members => !members.isEmpty

end Json
end ExpiryAudit
