import ExpiryAudit.Service.Host

/-!
# Request targets

What a request asks for may be a whole address or only a path, with a query and a
fragment behind it. The path is what remains when these are taken away and its
percent escapes are decoded. Slashes at its start count as one. A host that cannot be read
or written in ASCII is refused. An irregular host counts as none, and a regular one is refused
if it could not be shown.
-/
namespace ExpiryAudit.Service

/-- A scheme and a host, if there are any, and a path. -/
structure Address where
  scheme : List Char
  host : List Char
  path : List Char
  deriving DecidableEq, Repr

namespace Address

/-- A character that may stand in a scheme. -/
def isSchemeChar (c : Char) : Bool := c.isAlphanum || c == '+' || c == '-' || c == '.'

/-- The scheme in front of the first colon and what follows it. A scheme starts
with a letter. -/
def cutScheme (s : List Char) : List Char × List Char :=
  let name := s.takeWhile isSchemeChar
  match name, s.dropWhile isSchemeChar with
  | first :: _, ':' :: rest => if first.isAlpha then (name.map Char.toLower, rest) else ([], s)
  | _, _ => ([], s)

/-- The host, if two slashes announce one, and what follows it. -/
def cutHost : List Char → List Char × List Char
  | '/' :: '/' :: rest => rest.span fun c => c != '/' && c != '?' && c != '#'
  | s => ([], s)

/-- A character that does not count anywhere in an address. -/
def isLineEnd (c : Char) : Bool := c == '\t' || c == '\n' || c == '\r'

/-- Controls and spaces do not count in front of an address. -/
def withoutPadding (s : List Char) : List Char :=
  (s.filter (!isLineEnd ·)).dropWhile fun c => c.toNat ≤ 0x20

/-- Reads an address. -/
def read (s : List Char) : Except HostProblem Address := do
  let (scheme, rest) := cutScheme (withoutPadding s)
  let (host, rest) := cutHost rest
  Host.checkBrackets host
  Host.checkMarks host
  return ⟨scheme, host, rest.takeWhile fun c => c != '?' && c != '#'⟩

end Address

/-- A scheme, a host that is written in ASCII, and a path. -/
structure Target where
  scheme : List Char
  host : Host
  path : List Char
  deriving DecidableEq, Repr

namespace Target

/-- One slash in front of a path. -/
def rooted (path : List Char) : List Char := '/' :: path.dropWhile (· == '/')

/-- Slashes in a row as one slash. -/
def mergeSlashes : List Char → List Char
  | '/' :: '/' :: rest => mergeSlashes ('/' :: rest)
  | c :: rest => c :: mergeSlashes rest
  | [] => []

/-- The scheme and the host of an address without them. -/
def usualScheme : List Char := "http".toList

def usualHost : List Char := "localhost".toList

/-- The path that an address without a scheme is, with its host in ASCII. -/
def pathOf (a : Address) (host : Host) : List Char :=
  if host.text.isEmpty then a.path else '/' :: '/' :: host.text ++ a.path

/-- Reads a target. The path of an address may be an address itself, and the path of that
one may have a host in front. -/
def ofText (s : String) : Except HostProblem Target := do
  let outer ← Address.read s.toList
  let inner ← Address.read outer.path
  let last ← Address.read inner.path
  let front ← (Host.read last.host).encoded
  let host ← (Host.read (if outer.host.isEmpty then usualHost else outer.host)).encoded
  Host.checkBrackets host.text
  let scheme := if outer.scheme.isEmpty then usualScheme else outer.scheme
  let path := if last.scheme.isEmpty then pathOf last front else inner.path
  return ⟨scheme, host, rooted (Text.unescape path)⟩

/-- The scheme announces a lasting connection in place of a request. -/
def isSocket (t : Target) : Bool := t.scheme == "ws".toList || t.scheme == "wss".toList

/-- The number that a scheme has by itself. -/
def usualNumber (t : Target) : List Char :=
  if t.scheme == "http".toList || t.scheme == "ws".toList then "80".toList
  else if t.scheme == "https".toList || t.scheme == "wss".toList then "443".toList
  else []

/-- The host whose name is looked up and shown, without the number that its scheme has by
itself. A numeric address has no name, and an irregular host counts as none. -/
def namedHost? (t : Target) : Option Host :=
  let host := if t.host.number = t.usualNumber then { t.host with number := [] } else t.host
  if host.isRegular then some host else none

/-- Checks that the name of the host can be shown as a text. -/
def checkShown (t : Target) : Except HostProblem Unit := do
  if let some host := t.namedHost? then Host.checkMarks (← host.decoded).text

/-- The name of the host, if it has one, can be looked up. -/
def hasUsableHost (t : Target) : Bool :=
  t.namedHost?.all fun host => (Label.encodeName host.name).isOk

end Target
end ExpiryAudit.Service
