import ExpiryAudit.Text.Split

/-!
# Paths

The names on the way to a file, between slashes. An empty name and a single point
stay where they are; two points go up. Without them a path is tidy, except for the
points that go up.
-/
namespace ExpiryAudit

/-- The slashes in front, and the names on the way. -/
structure Path where
  root : String
  names : List String
  deriving DecidableEq, Repr

namespace Path

/-- The slashes that a path starts with. Two are kept, more are one. -/
def rootOf : List Char → String
  | '/' :: '/' :: '/' :: _ => "/"
  | '/' :: '/' :: _ => "//"
  | '/' :: _ => "/"
  | _ => ""

/-- The path just as it is written. -/
def written (s : String) : Path := ⟨"", (Text.split (· == '/') s.toList).map String.ofList⟩

/-- The path without the names that stay where they are. -/
def tidy (s : String) : Path :=
  ⟨rootOf s.toList, (written s).names.filter fun name => name != "" && name != "."⟩

def parent (p : Path) : Path := ⟨p.root, p.names.dropLast⟩

/-- The path as a text. A path without names is where one is. -/
def text (p : Path) : String :=
  if p.root = "" ∧ p.names = [] then "." else p.root ++ String.intercalate "/" p.names

/-- The path starts at the root of all files. -/
def isAbsolute (p : Path) : Bool := p.text.toList.head? == some '/'

end Path
end ExpiryAudit
