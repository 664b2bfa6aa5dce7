import ExpiryAudit.Json

/-!
# When two JSON values agree

Truth values and numbers agree when they are numerically equal, without
rounding; not-a-number agrees with nothing, except inside containers, where it
agrees with itself. Arrays agree item by item and objects member by member in any
order. Values of other kinds agree only with their own.
-/
namespace ExpiryAudit.Json

/-- The number that a value is, if it is one. -/
def whole? : Json → Option Int
  | bool b => some (if b then 1 else 0)
  | int n => some n
  | _ => none

/-- Both values are not-a-number. -/
def areNan : Json → Json → Bool
  | float .nan, float .nan => true
  | _, _ => false

mutual

def agrees : Json → Json → Bool
  | null, null => true
  | str s, str t => s == t
  | arr xs, arr ys => agreesItems xs ys
  | obj ms, obj ns => ms.length == ns.length && agreesMembers ms ns
  | float x, float y => x.agrees y
  | float x, y => match y.whole? with
    | some n => x.agreesInt n
    | none => false
  | bool b, y => match y with
    | float y => y.agreesInt (if b then 1 else 0)
    | y => y.whole? == some (if b then 1 else 0)
  | int n, y => match y with
    | float y => y.agreesInt n
    | y => y.whole? == some n
  | _, _ => false

def agreesItems : List Json → List Json → Bool
  | [], [] => true
  | x :: xs, y :: ys => (areNan x y || agrees x y) && agreesItems xs ys
  | _, _ => false

/-- Every member has an equal one of the same name. -/
def agreesMembers : List (Text × Json) → List (Text × Json) → Bool
  | [], _ => true
  | (name, x) :: rest, others =>
    (match Named.find? others name with
      | some y => areNan x y || agrees x y
      | none => false) && agreesMembers rest others

end

@[simp] theorem agrees_int (n m : Int) : agrees (int n) (int m) = (m == n) := by
  simp [agrees, whole?]

@[simp] theorem agrees_null : agrees null null = true := by simp [agrees]

end ExpiryAudit.Json
