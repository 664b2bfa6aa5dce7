import ExpiryAudit.Service.Label
import ExpiryAudit.Text.Escape
import ExpiryAudit.Text.WholeNumber

/-!
# Hosts in addresses

The part of an address that names a host: a user with a password, a name or a numeric
address in brackets, and a number behind a colon. A host is written in ASCII, and what is
written can be read back.
-/
namespace ExpiryAudit.Service

/-- What is wrong with a host. -/
inductive HostProblem where
  | brackets
  | versioned
  | unbracketed
  | numeric (written : String)
  | ambiguous (written : String)
  | encoding (problem : LabelProblem)
  | decoding (problem : LabelProblem)
  | notNumber (written : String)
  | longNumber (digits : Nat)
  | numberRange
  deriving DecidableEq, Repr

namespace HostProblem

/-- A message about a label, and what was done with it. -/
def labelMessage (activity : String) : LabelProblem → String
  | .notCanonical label again => (LabelProblem.notCanonical label again).message
  | problem => activity ++ " with 'idna' codec failed (UnicodeError: " ++ problem.message ++ ")"

def message : HostProblem → String
  | brackets => "Invalid IPv6 URL"
  | versioned => "IPvFuture address is invalid"
  | unbracketed => "An IPv4 address cannot be in brackets"
  | numeric written => Text.quote written ++ " does not appear to be an IPv4 or IPv6 address"
  | ambiguous written =>
    "netloc '" ++ written ++ "' contains invalid characters under NFKC normalization"
  | encoding problem => labelMessage "encoding" problem
  | decoding problem => labelMessage "decoding" problem
  | notNumber written => "Port could not be cast to integer value as " ++ Text.quote written
  | longNumber digits => Text.longNumberMessage digits
  | numberRange => "Port out of range 0-65535"

end HostProblem

/-! ## Users -/

structure User where
  name : List Char
  password : Option (List Char)
  deriving DecidableEq, Repr

namespace User

def read (s : List Char) : User :=
  let (name, password) := Text.cut ':' s
  ⟨name, if s.contains ':' then some password else none⟩

def text (u : User) : List Char := u.name ++ (u.password.map (':' :: ·)).getD []

/-- A character that stands for itself. -/
def isPlain (c : Char) : Bool := c.isAlphanum || "_.-~%!$&'()*+,;=".toList.contains c

/-- The user in ASCII. -/
def encoded (u : User) : User :=
  ⟨Text.escape isPlain u.name, u.password.map (Text.escape isPlain)⟩

end User

structure Host where
  user : Option User
  /-- The name, or the numeric address. -/
  name : List Char
  number : List Char
  deriving DecidableEq, Repr

namespace Host

/-- The number that decimal digits make. -/
def value (digits : List Char) : Nat :=
  digits.foldl (fun n d => 10 * n + (d.toNat - '0'.toNat)) 0

/-! ## Numeric addresses -/

/-- A number of up to three digits and at most 255, without zeros in front. -/
def isByte (s : List Char) : Bool :=
  !s.isEmpty && s.all Char.isDigit && s.length ≤ 3 && (s.head? != some '0' || s == ['0']) &&
    value s ≤ 255

/-- Four bytes with points between them. -/
def isShort (s : List Char) : Bool :=
  let parts := Text.split (· == '.') s
  parts.length == 4 && parts.all isByte

def isHexadecimal (c : Char) : Bool := (Text.hexadecimalValue? c).isSome

/-- One to four hexadecimal digits. -/
def isGroup (s : List Char) : Bool :=
  !s.isEmpty && s.length ≤ 4 && s.all isHexadecimal

/-- The groups of a long address, of which the last two may be written as a short
one. -/
def groups (s : List Char) : List (List Char) :=
  let parts := Text.split (· == ':') s
  match parts.getLast? with
  | some last => if isShort last then parts.dropLast ++ [['0'], ['0']] else parts
  | none => parts

/-- Eight groups with colons between them. Two colons in a row, once, stand for groups
of zeros. -/
def isLong (s : List Char) : Bool :=
  let (address, zone) := Text.cut '%' s
  let found := groups address
  let isZoned := !s.contains '%' || (!zone.isEmpty && !zone.contains '%')
  let inner := (found.drop 1).dropLast
  let first := found.takeWhile (!·.isEmpty)
  let last := (found.reverse.takeWhile (!·.isEmpty)).reverse
  isZoned && 3 ≤ (Text.split (· == ':') address).length &&
    if inner.all (!·.isEmpty) then found.length == 8 && found.all isGroup
    else
      let gaps := found.length - first.length - last.length
      let ends := (if first.isEmpty then 1 else 0) + (if last.isEmpty then 1 else 0)
      gaps == 1 + ends && first.length + last.length < 8 && first.all isGroup && last.all isGroup

/-- A version in hexadecimal digits, a point, and anything behind it. -/
def isVersioned (s : List Char) : Bool :=
  match s with
  | 'v' :: rest =>
    let version := rest.takeWhile isHexadecimal
    match rest.drop version.length with
    | '.' :: _ :: _ => !version.isEmpty
    | _ => false
  | _ => false

/-- Checks what stands in brackets. -/
def checkNumeric (s : List Char) : Except HostProblem Unit :=
  if s.head? == some 'v' then if isVersioned s then .ok () else .error .versioned
  else if isShort s then .error .unbracketed
  else if isLong s then .ok ()
  else .error (.numeric (String.ofList s))

/-- Checks a host with brackets. Nothing stands in front of them, and behind them at most a
colon and a number. -/
def checkBrackets (host : List Char) : Except HostProblem Unit :=
  if host.contains '[' != host.contains ']' then .error .brackets
  else if !host.contains '[' then .ok ()
  else
    let place := (Text.cutLast '@' host).2
    if !place.contains '[' then checkNumeric (Text.cut ':' place).1
    else
      let (before, bracketed) := Text.cut '[' place
      let (name, after) := Text.cut ']' bracketed
      if !before.isEmpty || after.head?.any (· != ':') then .error .brackets
      else checkNumeric name

/-- Characters that are variants of a mark that ends a host or a part of it, or of several
of them. -/
def ambiguousCodes : List Nat :=
  [0x2047, 0x2048, 0x2049, 0x2100, 0x2101, 0x2105, 0x2106, 0x2a74, 0xfe13, 0xfe16, 0xfe55, 0xfe56,
    0xfe5f, 0xfe6b, 0xff03, 0xff0f, 0xff1a, 0xff1f, 0xff20]

def checkMarks (host : List Char) : Except HostProblem Unit :=
  if host.any fun c => ambiguousCodes.contains c.toNat then
    .error (.ambiguous (String.ofList host))
  else .ok ()

/-! ## Reading and writing -/

def read (host : List Char) : Host :=
  let (user, place) := Text.cutLast '@' host
  let user := user.map User.read
  if place.contains '[' then
    let (name, rest) := Text.cut ']' (Text.cut '[' place).2
    ⟨user, name, (Text.cut ':' rest).2⟩
  else
    let (name, number) := Text.cut ':' place
    ⟨user, name, number⟩

/-- A name with a colon stands in brackets. -/
def nameText (name : List Char) : List Char :=
  if name.contains ':' then '[' :: name ++ [']'] else name

def text (h : Host) : List Char :=
  (h.user.map (·.text ++ ['@'])).getD [] ++ nameText h.name ++
    if h.number.isEmpty then [] else ':' :: h.number

/-! ## In ASCII and back -/

/-- The small letter of a character, as far as it is in ASCII. -/
def smallLetter (c : Char) : Char := if c == '\u212a' then 'k' else c.toLower

/-- The name in small letters. What follows a percent sign is not part of the name. -/
def smallName (name : List Char) : List Char :=
  (name.takeWhile (· != '%')).map smallLetter ++ name.dropWhile (· != '%')

def largestNumber : Nat := 65535

/-- The number without zeros in front. -/
def checkedNumber (number : List Char) : Except HostProblem (List Char) := do
  if number.isEmpty then return []
  if !number.all Char.isDigit then throw (.notNumber (String.ofList number))
  if Text.digitLimit < number.length then throw (.longNumber number.length)
  if largestNumber < value number then throw .numberRange
  return Nat.toDigits 10 (value number)

/-- The host in ASCII. -/
def encoded (h : Host) : Except HostProblem Host := do
  let name ← (Label.encodeName (smallName h.name)).mapError .encoding
  return ⟨h.user.map User.encoded, name, ← checkedNumber h.number⟩

/-- The host with the text of its name in ASCII. -/
def decoded (h : Host) : Except HostProblem Host := do
  return { h with name := ← (Label.decodeName h.name).mapError .decoding }

/-! ## Regular hosts -/

def isNameChar (c : Char) : Bool := c.isAlphanum || c == '.' || c == '-'

/-- A name of letters, digits, points and hyphens, without a user and with a number other than
zero, or with none. -/
def isRegular (h : Host) : Bool :=
  h.user.isNone && h.name.all isNameChar && h.number != ['0']

end Host
end ExpiryAudit.Service
