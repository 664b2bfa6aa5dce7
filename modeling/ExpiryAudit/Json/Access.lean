import ExpiryAudit.Fault
import ExpiryAudit.Json.Agreement
import ExpiryAudit.Json.Writer

/-!
# Taking JSON values apart

Reading fields, items and whole numbers out of a value whose shape is not known
in advance. Each reading says what the value was when it does not fit.
-/
namespace ExpiryAudit.Json

/-- The value of a field. -/
def field (name : Text) : Json → Except Fault Json
  | obj members => match Named.find? members name with
    | some v => .ok v
    | none => .error (.noField name)
  | arr _ => .error .listIndex
  | str _ => .error .textIndex
  | v => .error (.notSubscriptable v.kindName)

/-- The items of an array, the code points of a text or the names of an object. -/
def items? : Json → Option (List Json)
  | arr items => some items
  | str s => some (s.points.map fun p => .str (.single p))
  | obj members => some (members.map fun m => .str m.1)
  | _ => none

def elements (v : Json) : Except Fault (List Json) :=
  match v.items? with
  | some items => .ok items
  | none => .error (.notIterable v.kindName)

/-- The two items of a value that has exactly two. -/
def pair (v : Json) : Except Fault (Json × Json) :=
  match v.items? with
  | some [x, y] => .ok (x, y)
  | some (_ :: _ :: _ :: _) => .error .tooMany
  | some items => .error (.tooFew items.length)
  | none => .error (.notUnpackable v.kindName)

/-- The members of an object. -/
def members : Json → Except Fault (List (Text × Json))
  | obj members => .ok members
  | v => .error (.noMembers v.kindName)

/-- The whole number that a value stands for. Numbers lose their fraction and
texts are read as whole numbers; half of a pair is as good as any character that is no
digit. -/
def toInt : Json → Except Fault Int
  | bool b => .ok (if b then 1 else 0)
  | int n => .ok n
  | float .nan => .error .notANumber
  | float x => match x.truncate? with
    | some n => .ok n
    | none => .error .infiniteNumber
  | str s => match Text.readWhole (s.chars '?') with
    | .ok n => .ok n
    | .error .malformed => .error (.wholeNumber s)
    | .error (.tooLong digits) => .error (.longNumber digits)
  | v => .error (.notNumber v.kindName)

@[simp] theorem toInt_int (n : Int) : (int n).toInt = .ok n := rfl

/-- The double precision number nearest to a value, if it is a number. -/
def toFloat? : Json → Option (Except Fault Binary64)
  | float x => some (.ok x)
  | v => v.whole?.map fun n => match Binary64.ofInt? n with
    | some x => .ok x
    | none => .error .sumOverflow

/-- Adds numbers and joins texts or arrays. -/
def plus (v w : Json) : Except Fault Json :=
  match v.whole?, w.whole? with
  | some n, some m => .ok (.int (n + m))
  | _, _ =>
    match v, w with
    | str s, str t => .ok (.str (s ++ t))
    | arr xs, arr ys => .ok (.arr (xs ++ ys))
    | str _, w => .error (.concatenation "str" w.kindName)
    | arr _, w => .error (.concatenation "list" w.kindName)
    | v, w =>
      match v.toFloat?, w.toFloat? with
      | some x, some y => do return .float (Binary64.add (← x) (← y))
      | _, _ => .error (.addition v.kindName w.kindName)

/-- A value that is to be written, provided that it can be. -/
def writableIf (isWritable : Bool) (v : Json) : Except Fault Json :=
  if isWritable then .ok v else .error .unwritable

/-- A value that is to be written. -/
def writable (v : Json) : Except Fault Json := v.writableIf v.isWritable

@[simp] theorem plus_int (n m : Int) : (int n).plus (int m) = .ok (int (n + m)) := rfl

end ExpiryAudit.Json
