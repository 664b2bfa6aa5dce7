import ExpiryAudit.Json
import ExpiryAudit.Text.Quoted
import ExpiryAudit.Text.WholeNumber

/-!
# JSON values in messages

Messages and log lines show a value in a notation of their own, with capital
names and quoted texts. On its own, a text is shown as it is.
-/
namespace ExpiryAudit.Json

/-- The names of the numbers without digits, in messages. -/
def shownSpelling : Binary64.Spelling := ⟨"nan", "inf"⟩

mutual

def shown : Json → List Char
  | null => "None".toList
  | bool true => "True".toList
  | bool false => "False".toList
  | int n => Text.decimal n
  | float x => x.text shownSpelling
  | str s => Text.quoted s
  | arr items => '[' :: shownItems items ++ [']']
  | obj members => '{' :: shownMembers members ++ ['}']

def shownItems : List Json → List Char
  | [] => []
  | [v] => shown v
  | v :: w :: rest => shown v ++ ',' :: ' ' :: shownItems (w :: rest)

def shownMembers : List (Text × Json) → List Char
  | [] => []
  | [(name, v)] => Text.quoted name ++ ':' :: ' ' :: shown v
  | (name, v) :: m :: rest =>
    Text.quoted name ++ ':' :: ' ' :: shown v ++ ',' :: ' ' :: shownMembers (m :: rest)

end

/-- The value inside a message. -/
def display (v : Json) : String := String.ofList v.shown

/-- The value as a message of its own. -/
def plain : Json → Text
  | str s => s
  | v => v.display

end ExpiryAudit.Json
