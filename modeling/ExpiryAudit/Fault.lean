import ExpiryAudit.Json.Display
import ExpiryAudit.Json.Reader
import ExpiryAudit.Text.Utf8

/-!
# Faults

Every way in which reading input, talking to a host or checking settings can
fail, with the kind of each fault and its message.
-/
namespace ExpiryAudit

/-- What can be wrong with a path. -/
inductive FileProblem where
  | missing
  | present
  | notDirectory
  | isDirectory
  | nameTooLong
  deriving DecidableEq, Repr

namespace FileProblem

/-- The number that operating systems give to the problem. -/
def number : FileProblem → Nat
  | missing => 2
  | present => 17
  | notDirectory => 20
  | isDirectory => 21
  | nameTooLong => 36

def message : FileProblem → String
  | missing => "No such file or directory"
  | present => "File exists"
  | notDirectory => "Not a directory"
  | isDirectory => "Is a directory"
  | nameTooLong => "File name too long"

end FileProblem

/-- What an option without a value was needed for. Such a value counts as an empty
list. -/
inductive BlankUse where
  | path
  | host
  | eventCount
  | keyCount
  | seed
  deriving DecidableEq, Repr

def BlankUse.message : BlankUse → String
  | path => "expected str, bytes or os.PathLike object, not list"
  | host => "'list' object has no attribute 'partition'"
  | eventCount => "'<' not supported between instances of 'list' and 'int'"
  | keyCount => "'<=' not supported between instances of 'list' and 'int'"
  | seed => "The only supported seed types are: None,\nint, float, str, bytes, and bytearray."

/-- The families of faults that callers tell apart. -/
inductive Fault.Kind where
  | value
  | type
  | field
  | attribute
  | overflow
  | json
  | text
  | file (problem : FileProblem)
  | nesting
  | library
  | exhausted
  | connection
  | raised (name : Text)
  deriving DecidableEq, Repr

inductive Fault where
  | inverted (before after : Int)
  | lifetime (written : Json)
  | lifetimeKind (kind : String)
  | setting (name : String) (written : Json)
  | interval (count : Int)
  | negativeLength (length : Int)
  | key (written : Json)
  | noUpdate (key rule : Text)
  | updates (kind : String)
  | notPair (written : String)
  | mapKey (kind : String)
  | amount (rule : Text) (kind : String)
  | duplicateRules (ids : List Text)
  | noField (name : Text)
  | listIndex
  | textIndex
  | notSubscriptable (kind : String)
  | notIterable (kind : String)
  | notUnpackable (kind : String)
  | tooFew (found : Nat)
  | tooMany
  | noMembers (kind : String)
  | notEntry (index : Nat)
  | entryLength (index length : Nat)
  | notKey (kind : String)
  | unordered (left right : String)
  | wholeNumber (written : Text)
  | longNumber (digits : Nat)
  | unwritable
  | notNumber (kind : String)
  | infiniteNumber
  | notANumber
  | concatenation (left right : String)
  | addition (left right : String)
  | sumOverflow
  | quotientOverflow
  | malformed (found : Json.Malformed)
  | undecodable (found : Text.Utf8.Broken)
  | file (problem : FileProblem) (path : String)
  | nullByte
  | checkpointKind (path kind : String)
  | checkpointVersion (path : String) (version : Int)
  | checkpointHash (expected : String) (stored : Json)
  | event (line : Nat) (message : Text)
  | hostForm (spec : String)
  | noLibrary (name : String)
  | noPart (name library : String)
  | relativeLibrary (name : String)
  | noAttribute (library name : String)
  | notHost (spec kind : String)
  | clockExhausted
  | unavailable
  | raised (name message : Text)
  | eventCount (count : Int)
  | keyCount (count : Int)
  | blank (use : BlankUse)
  deriving Inhabited

namespace Fault

def kind : Fault → Kind
  | lifetimeKind _ | updates _ | mapKey _ | amount _ _ | listIndex | textIndex
  | notSubscriptable _ | notIterable _ | notUnpackable _ | notEntry _ | notKey _ | unordered _ _
  | notNumber _ | concatenation _ _ | addition _ _ | notHost _ _ | relativeLibrary _ => .type
  | noField _ => .field
  | noMembers _ | noAttribute _ _ | blank .host => .attribute
  | blank _ => .type
  | infiniteNumber | sumOverflow | quotientOverflow => .overflow
  | malformed found => match found.problem with
    | .longNumber _ => .value
    | .nesting _ => .nesting
    | _ => .json
  | undecodable _ => .text
  | file problem _ => .file problem
  | noLibrary _ | noPart _ _ => .library
  | clockExhausted => .exhausted
  | unavailable => .connection
  | raised name _ => .raised name
  | inverted _ _ | lifetime _ | setting _ _ | interval _ | negativeLength _ | key _
  | noUpdate _ _ | notPair _ | duplicateRules _ | tooFew _ | tooMany | entryLength _ _
  | wholeNumber _ | longNumber _ | unwritable | notANumber
  | checkpointKind _ _ | checkpointVersion _ _ | checkpointHash _ _ | event _ _ | hostForm _
  | nullByte | eventCount _ | keyCount _ => .value

/-- Faults of a value, a type, a missing field or a text: those that say that
input is wrong. -/
def isRejection (f : Fault) : Bool :=
  match f.kind with
  | .value | .type | .field | .json | .text => true
  | _ => false

/-- Two lower case hexadecimal digits. -/
def byteText (b : UInt8) : String := String.ofList (Text.hexadecimal 2 b.toNat)

def decodingMessage (found : Text.Utf8.Broken) : String :=
  let place := if found.width = 1 then
      "byte 0x" ++ byteText found.byte ++ " in position " ++ toString found.position
    else
      "bytes in position " ++ toString found.position ++ "-" ++
        toString (found.position + found.width - 1)
  "'utf-8' codec can't decode " ++ place ++ ": " ++ found.reason.message

def malformedMessage (found : Json.Malformed) : String :=
  if found.problem.hasPlace then
    found.problem.message ++ ": line " ++ toString found.line ++ " column " ++
      toString found.column ++ " (char " ++ toString found.position ++ ")"
  else found.problem.message

/-- The most characters of a text that is shown because it is no number. -/
def shownLimit : Nat := 200

/-- A message about a window that ends before it starts. -/
def invertedMessage (before after : Int) : String :=
  if Text.isWritable before && Text.isWritable after then
    "before_ts (" ++ toString before ++ ") is after after_ts (" ++ toString after ++ ")"
  else Text.unwritableMessage

def message : Fault → Text
  | inverted before after => invertedMessage before after
  | lifetime written => "ttl_ms must be positive, got " ++ written.display
  | lifetimeKind kind => "'<=' not supported between instances of '" ++ kind ++ "' and 'int'"
  | setting name written => name ++ " must be a positive int, got " ++ written.display
  | interval count => "report_every must be positive, got " ++ toString count
  | negativeLength length => "history_length must be >= 0, got " ++ toString length
  | key written => "Invalid key: " ++ written.display
  | noUpdate owner rule =>
    "Event for key " ++ Text.quote owner ++ " has no update for rule " ++ Text.quote rule
  | updates kind => "updates must be an object, got " ++ kind
  | notPair written => "Map update must be a [key, value] pair, got " ++ written
  | mapKey kind => "Map key must be str, got " ++ kind
  | amount rule kind => "Rule " ++ Text.quote rule ++ " expects an int update, got " ++ kind
  | duplicateRules ids => "Duplicate rule ids: " ++ (Json.arr (ids.map .str)).display
  | noField name => Text.quote name
  | listIndex => "list indices must be integers or slices, not str"
  | textIndex => "string indices must be integers, not 'str'"
  | notSubscriptable kind => "'" ++ kind ++ "' object is not subscriptable"
  | notIterable kind => "'" ++ kind ++ "' object is not iterable"
  | notUnpackable kind => "cannot unpack non-iterable " ++ kind ++ " object"
  | tooFew found => "not enough values to unpack (expected 2, got " ++ toString found ++ ")"
  | tooMany => "too many values to unpack (expected 2)"
  | noMembers kind => "'" ++ kind ++ "' object has no attribute 'items'"
  | notEntry index =>
    "cannot convert dictionary update sequence element #" ++ toString index ++ " to a sequence"
  | entryLength index length =>
    "dictionary update sequence element #" ++ toString index ++ " has length " ++
      toString length ++ "; 2 is required"
  | notKey kind => "unhashable type: '" ++ kind ++ "'"
  | unordered left right =>
    "'<' not supported between instances of '" ++ left ++ "' and '" ++ right ++ "'"
  | wholeNumber written =>
    "invalid literal for int() with base 10: " ++
      String.ofList ((Text.quoted written).take shownLimit)
  | longNumber digits => Text.longNumberMessage digits
  | unwritable => Text.unwritableMessage
  | notNumber kind =>
    "int() argument must be a string, a bytes-like object or a real number, not '" ++ kind ++ "'"
  | infiniteNumber => "cannot convert float infinity to integer"
  | notANumber => "cannot convert float NaN to integer"
  | concatenation left right =>
    "can only concatenate " ++ left ++ " (not \"" ++ right ++ "\") to " ++ left
  | addition left right =>
    "unsupported operand type(s) for +: '" ++ left ++ "' and '" ++ right ++ "'"
  | sumOverflow => "int too large to convert to float"
  | quotientOverflow => "integer division result too large for a float"
  | malformed found => malformedMessage found
  | undecodable found => decodingMessage found
  | file problem path =>
    "[Errno " ++ toString problem.number ++ "] " ++ problem.message ++ ": " ++ Text.quote path
  | nullByte => "embedded null byte"
  | checkpointKind path kind =>
    "Checkpoint file is corrupted! Expected a JSON object in " ++ path ++ ", got " ++ kind
  | checkpointVersion path version =>
    "Unsupported checkpoint version " ++ toString version ++ " in " ++ path
  | checkpointHash expected stored =>
    "Checkpoint file is corrupted! Expected hash " ++ expected ++ ", got " ++ stored.plain
  | event line message => "Invalid event on line " ++ toString line ++ ": " ++ message
  | hostForm spec => "Backend must look like 'module:attr', got " ++ Text.quote spec
  | noLibrary name => "No module named " ++ Text.quote name
  | noPart name library =>
    "No module named " ++ Text.quote name ++ "; " ++ Text.quote library ++ " is not a package"
  | relativeLibrary name =>
    "the 'package' argument is required to perform a relative import for " ++ Text.quote name
  | noAttribute library name =>
    "module '" ++ library ++ "' has no attribute '" ++ name ++ "'"
  | notHost spec kind => Text.quote spec ++ " did not produce a StateBackend, got " ++ kind
  | clockExhausted => "clock exhausted"
  | unavailable => "state store unavailable"
  | raised _ message => message
  | eventCount count => "count must be >= 0, got " ++ toString count
  | keyCount count => "keys must be positive, got " ++ toString count
  | blank use => use.message

end Fault
end ExpiryAudit
