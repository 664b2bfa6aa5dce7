import ExpiryAudit.Host.Library
import ExpiryAudit.Host.Reference

/-!
# A library of hosts

The library that holds the reference stores, and a clock that is no store. It stands for
the libraries that there may be.
-/
namespace ExpiryAudit.Behaviour

/-- The name of a store in the library. -/
def title : Behaviour → String
  | faithful => "FakeTtlBackend"
  | forgetful => "ForgetfulBackend"
  | everlasting => "NeverExpiringBackend"
  | unavailable => "UnavailableBackend"

def all : List Behaviour := [faithful, forgetful, everlasting, unavailable]

def libraryName : String := "fakes"

def clockName : String := "FakeClock"

/-- The first two parts of a name with points, and the point between them. -/
def firstTwoParts (name : List Char) : List Char :=
  name.takeWhile (· != '.') ++ '.' ::
    ((name.dropWhile (· != '.')).drop 1).takeWhile (· != '.')

/-- Looks for a library. Parts are looked for from the first one on, and the first
part that is missing is named. -/
def findLibrary (name : String) : Except Fault Unit :=
  let first := name.toList.takeWhile (· != '.')
  if name = libraryName then .ok ()
  else if first.isEmpty then .error (.relativeLibrary name)
  else if first = libraryName.toList then
    .error (.noPart (String.ofList (firstTwoParts name.toList)) libraryName)
  else .error (.noLibrary (String.ofList first))

/-- What a library holds under a name. -/
def find (library name : String) : Except Fault (Found Behaviour) := do
  findLibrary library
  match all.find? fun b => b.title == name with
  | some b => return .host b
  | none =>
    if name = clockName then return .other clockName
    else throw (.noAttribute libraryName name)

/-- A system with the library. A store is made anew whenever it is looked for. -/
def platform : Platform (TimeSource × Tables) where
  find := fun library name w =>
    ((find library name).map (·.map fun b => b.environment.host), w.1, .empty)
  now := TimeSource.now.within (·.1) fun c s => (c, s.2)

end ExpiryAudit.Behaviour
