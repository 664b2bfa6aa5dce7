import ExpiryAudit.Text.Quoted
import ExpiryAudit.Text.WholeNumber

/-!
# Options on a command line

A long option takes one value, from the next argument or after an equals sign,
and may be shortened as long as it stays unique. Of repeated options the last one
counts. An argument that starts with a dash is a value only when it is a negative
number, holds a blank, or is a dash alone. Two dashes after an equals sign leave the
value blank.
-/
namespace ExpiryAudit.CommandLine

/-- Why a command line is not carried out. -/
inductive Refusal where
  | help
  | usage (program message : String)
  deriving DecidableEq, Repr

structure OptionSpec where
  name : String
  isNumber : Bool
  isRequired : Bool

inductive OptionValue where
  | text (value : String)
  | number (value : Int)
  | blank
  deriving DecidableEq, Repr

/-- The flags of a program, which take no value. -/
structure Grammar where
  program : String
  /-- Long names with what they are shown as in messages. -/
  flags : List (String × String)
  options : List OptionSpec

/-- What an argument is. -/
inductive Role where
  | plain
  | unknown
  | flag (name : String)
  | letters (first : String) (more : List Char)
  | option (spec : OptionSpec)
  | attached (name : String) (value : String)
  | ambiguous (names : List String)

/-- A minus sign and digits, perhaps with a point in front of the last of them. One
line feed may follow. -/
def isNegativeNumber (s : List Char) : Bool :=
  let s := if s.getLast? = some '\n' then s.dropLast else s
  let isDigit := fun c => (Text.digitValue? c).isSome
  match s with
  | '-' :: rest =>
    match rest.span isDigit with
    | (ds, []) => !ds.isEmpty
    | (_, '.' :: places) => !places.isEmpty && places.all isDigit
    | _ => false
  | _ => false

namespace Grammar

variable (g : Grammar)

def names : List String := g.flags.map (·.1) ++ g.options.map (·.name)

/-- The long names that an argument may stand for: itself, or those it begins. -/
def matching (name : List Char) : List String :=
  if g.names.contains (String.ofList name) then [String.ofList name]
  else g.names.filter fun n => name.isPrefixOf n.toList

/-- The role of an exact name. -/
def roleOf (name : String) : Role :=
  match g.options.find? fun o => o.name == name with
  | some o => .option o
  | none => .flag name

/-- An argument without a name behind it. -/
def unnamed (s : List Char) : Role :=
  if isNegativeNumber s || s.contains ' ' then .plain else .unknown

/-- A long argument, perhaps with a value after an equals sign. -/
def longRole (s : List Char) : Role :=
  if g.names.contains (String.ofList s) then g.roleOf (String.ofList s) else
  let name := s.takeWhile (· != '=')
  match s.dropWhile (· != '='), g.matching name with
  | _, [] => unnamed s
  | [], [n] => g.roleOf n
  | _ :: value, [n] => .attached n (String.ofList value)
  | _, ns => .ambiguous ns

/-- The flag that a short letter stands for. -/
def shortFlag? (letter : Char) : Option String :=
  (g.flags.find? fun f => f.1.toList.take 3 == ['-', '-', letter]).map (·.1)

def role (argument : String) : Role :=
  match argument.toList with
  | '-' :: '-' :: rest => g.longRole ('-' :: '-' :: rest)
  | ['-', letter] =>
    match g.shortFlag? letter with
    | some n => .flag n
    | none => unnamed ['-', letter]
  | '-' :: letter :: rest =>
    match g.shortFlag? letter with
    | some n => .letters n (if rest.head? = some '=' then rest.drop 1 else rest)
    | none => unnamed ('-' :: letter :: rest)
  | _ => .plain

def refuse (message : String) : Refusal := .usage g.program message

def shownFlag (name : String) : String :=
  ((g.flags.find? fun f => f.1 == name).map (·.2)).getD name

/-- Refuses a value after a flag. -/
def refuseValue (name value : String) : Refusal :=
  g.refuse ("argument " ++ g.shownFlag name ++ ": ignored explicit argument " ++
    Text.quote value)

/-- The flags of the letters that follow a first flag in one argument. A letter that
stands for none is refused with all that comes after it. -/
def readLetters (first : String) : List Char → Except Refusal (List String)
  | [] => .error (g.refuseValue first "")
  | letter :: rest =>
    match g.shortFlag? letter with
    | none => .error (g.refuseValue first (String.ofList (letter :: rest)))
    | some flag =>
      if rest.isEmpty then .ok [first, flag]
      else do return first :: (← readLetters flag rest)

def refuseAmbiguous (argument : String) (names : List String) : Refusal :=
  g.refuse ("ambiguous option: " ++ argument ++ " could match " ++ String.intercalate ", " names)

/-- Looks for arguments that stand for more than one option. -/
def checkUnique : List String → Except Refusal Unit
  | [] => .ok ()
  | argument :: rest =>
    if argument = "--" then .ok () else
    match g.role argument with
    | .ambiguous names => .error (g.refuseAmbiguous argument names)
    | _ => checkUnique rest

/-- The value of an option. -/
def readOption (o : OptionSpec) (text : String) : Except Refusal OptionValue :=
  if o.isNumber then
    match Text.readWhole text.toList with
    | .ok n => .ok (.number n)
    | .error _ => .error (g.refuse
        ("argument " ++ o.name ++ ": invalid int value: " ++ Text.quote text))
  else .ok (.text text)

/-- The value of an option after an equals sign. Two dashes leave it blank. -/
def readAttached (o : OptionSpec) (text : String) : Except Refusal OptionValue :=
  if text = "--" then .ok .blank else g.readOption o text

/-- What has been read: options in order, and arguments that are not known. -/
structure Found where
  values : List (String × OptionValue)
  rest : List String

def Found.add (f : Found) (name : String) (v : OptionValue) : Found :=
  { f with values := (name, v) :: f.values }

def Found.leave (f : Found) (arguments : List String) : Found :=
  { f with rest := f.rest ++ arguments }

/-- The last value of an option. -/
def Found.value? (f : Found) (name : String) : Option OptionValue :=
  (f.values.find? fun v => v.1 == name).map (·.2)

/-- The argument can be the value of an option. -/
def isValue (argument : String) : Bool :=
  if argument = "--" then false else
  match g.role argument with
  | .plain => true
  | _ => false

/-- Reads the arguments of a program that has options only. -/
def readOptions (f : Found) : List String → Except Refusal Found
  | [] => .ok f
  | argument :: rest =>
    if argument = "--" then .ok (f.leave (argument :: rest)) else
    match g.role argument with
    | .option o =>
      match rest with
      | value :: rest =>
        if g.isValue value then do
          readOptions (f.add o.name (← g.readOption o value)) rest
        else .error (g.refuse ("argument " ++ o.name ++ ": expected one argument"))
      | [] => .error (g.refuse ("argument " ++ o.name ++ ": expected one argument"))
    | .attached name value =>
      match g.options.find? fun o => o.name == name with
      | some o => do readOptions (f.add o.name (← g.readAttached o value)) rest
      | none => .error (g.refuseValue name value)
    | .flag _ => .error .help
    | .letters first more => do
      let _ ← g.readLetters first more
      .error .help
    | _ => readOptions (f.leave [argument]) rest

/-- The required options that were not given, as a refusal. -/
def checkRequired (f : Found) : Except Refusal Unit :=
  let missing := (g.options.filter fun o => o.isRequired && (f.value? o.name).isNone).map (·.name)
  if missing.isEmpty then .ok ()
  else .error (g.refuse
    ("the following arguments are required: " ++ String.intercalate ", " missing))

/-- Reads all arguments and checks that nothing required is missing. -/
def read (arguments : List String) : Except Refusal Found := do
  g.checkUnique arguments
  let f ← g.readOptions ⟨[], []⟩ arguments
  g.checkRequired f
  return f

end Grammar
end ExpiryAudit.CommandLine
