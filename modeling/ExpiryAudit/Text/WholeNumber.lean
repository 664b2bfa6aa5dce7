import ExpiryAudit.Text.Class

/-!
# Whole numbers in text

A whole number is written with decimal digits of any script, single underscores
between them, at most one sign before them, and padding around all of it. There is
a limit to the digits of the numbers that are read and of those that are written.
-/
namespace ExpiryAudit.Text

/-- The most digits of a number. -/
def digitLimit : Nat := 4300

/-- Why a text is no whole number. -/
inductive NumeralProblem where
  | malformed
  | tooLong (digits : Nat)
  deriving DecidableEq, Repr

/-- What both messages about the limit end with. -/
def limitAdvice : String := "; use sys.set_int_max_str_digits() to increase the limit"

/-- The message for a number that has too many digits to be read. -/
def longNumberMessage (digits : Nat) : String :=
  "Exceeds the limit (" ++ toString digitLimit ++
    " digits) for integer string conversion: value has " ++ toString digits ++ " digits" ++
    limitAdvice

/-- The message for a number that would have too many digits when written. -/
def unwritableMessage : String :=
  "Exceeds the limit (" ++ toString digitLimit ++ " digits) for integer string conversion" ++
    limitAdvice

/-- Text without the leading and trailing characters of a class. -/
def strip (class? : Char → Bool) (s : List Char) : List Char :=
  ((s.dropWhile class?).reverse.dropWhile class?).reverse

/-- The digits that follow a number already read. -/
def digitsAfter (n : Nat) : List Char → Option Nat
  | [] => some n
  | '_' :: c :: rest => do digitsAfter (10 * n + (← digitValue? c)) rest
  | c :: rest => do digitsAfter (10 * n + (← digitValue? c)) rest

def digits? : List Char → Option Nat
  | [] => none
  | c :: rest => do digitsAfter (← digitValue? c) rest

/-- A character that may stand in a number: a digit or an underscore. -/
def isNumeral (c : Char) : Bool := c == '_' || (digitValue? c).isSome

/-- Reads the digits of a number. That there are too many of them is noticed before
anything that follows them. -/
def readDigits (s : List Char) : Except NumeralProblem Nat :=
  let numeral := s.takeWhile isNumeral
  let count := numeral.countP (· != '_')
  match digits? numeral with
  | none => .error .malformed
  | some n =>
    if digitLimit < count then .error (.tooLong count)
    else if (s.dropWhile isNumeral).isEmpty then .ok n
    else .error .malformed

def readWhole (s : List Char) : Except NumeralProblem Int :=
  match strip isPadding s with
  | '-' :: rest => (readDigits rest).map fun n => -(n : Int)
  | '+' :: rest => (readDigits rest).map Int.ofNat
  | rest => (readDigits rest).map Int.ofNat

/-! ## Writing -/

/-- The decimal digits of a whole number. -/
def decimal : Int → List Char
  | .ofNat n => Nat.toDigits 10 n
  | .negSucc n => '-' :: Nat.toDigits 10 (n + 1)

def decimalText (n : Int) : String := String.ofList (decimal n)

/-- The number has no more digits than the limit. -/
def isWritable (n : Int) : Bool := decide (n.natAbs < Nat.pow 10 digitLimit)

end ExpiryAudit.Text
