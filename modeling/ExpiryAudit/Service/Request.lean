import ExpiryAudit.Service
import ExpiryAudit.Service.Target
import ExpiryAudit.Text.Encoding

/-!
# Requests to the service

Where a request goes and what its body holds. This follows the framework around the
service: routes, methods, redirections, and bodies that are not declared to be JSON or are no
JSON, in which null is found.
-/
namespace ExpiryAudit

namespace Service

/-- Why a request cannot be sent. -/
inductive Refusal where
  | host (problem : HostProblem)
  | lineEnd
  deriving DecidableEq, Repr

def Refusal.message : Refusal → String
  | host problem => problem.message
  | lineEnd => "Header values must not contain newline characters."

structure Request where
  method : String
  path : String
  contentType : String
  body : Option (List UInt8)

/-- The answer that sends a request to another path of the host. -/
def redirection : Response := empty 308

/-! ## Bodies -/

/-- The media type in lower case, without parameters. Spaces and tabs may stand
around it. -/
def mediaType (contentType : String) : List Char :=
  let written := contentType.toList.takeWhile (· != ';')
  (Text.strip (fun c => c == ' ' || c == '\t') written).map Char.toLower

def isJson (contentType : String) : Bool :=
  let media := mediaType contentType
  media == "application/json".toList ||
    ("application/".toList.isPrefixOf media && "+json".toList.isSuffixOf media)

/-- A text without a byte order mark in front. -/
def withoutMark : List Char → List Char
  | '\ufeff' :: rest => rest
  | s => s

/-- The value of bytes in whatever encoding they show to be in; null if they are no
JSON. Containers must not be too deep. -/
def readBody (body : List UInt8) : Except Fault Json :=
  match Text.guessed? body with
  | none => .ok .null
  | some text => match Json.parse (withoutMark text) with
    | .ok v => .ok v
    | .error found =>
      if (Fault.malformed found).isRejection then .ok .null else .error (.malformed found)

/-- What is found in the body of a request. -/
def foundIn (r : Request) : Except Fault Json :=
  match r.body with
  | some bytes => if isJson r.contentType then readBody bytes else .ok .null
  | none => .ok .null

/-! ## Routes -/

/-- What a path stands for. An asset is a file of the service; there are none. -/
inductive Route where
  | scenarios
  | checkClash
  | runTest
  | asset
  deriving DecidableEq, Repr

/-- The name of an asset: it does not start with a slash, and after its start there
is no line end. -/
def isAssetName : List Char → Bool
  | [] => false
  | c :: rest => c != '/' && !rest.contains '\n'

def Route.ofPath? (path : List Char) : Option Route :=
  if path = "/api/scenarios".toList then some scenarios
  else if path = "/api/check-clash".toList then some checkClash
  else if path = "/api/run-test".toList then some runTest
  else if "/static/".toList.isPrefixOf path && isAssetName (path.drop 8) then some asset
  else none

/-- The methods of a route. Listing the methods themselves is always allowed. -/
def Route.methods : Route → List String
  | scenarios | asset => ["GET", "HEAD", "OPTIONS"]
  | checkClash | runTest => ["POST", "OPTIONS"]

/-- The answer to a method that the route allows. Only reading or posting has a JSON
body. -/
def Route.answer (route : Route) (method : String) (r : Request) : Response :=
  if method = "OPTIONS" then empty 200 else
  match route with
  | scenarios =>
    if method = "GET" then ⟨200, .arr (Scenario.all.map Scenario.toJson)⟩ else empty 200
  | checkClash => answerBody (foundIn r) Service.checkClash
  | runTest => answerBody (foundIn r) Service.runTest
  | asset => empty 404

/-- Answers a request for a target. A path that names a route only when slashes in a
row are merged is redirected there. -/
def respondAt (target : Target) (r : Request) : Response :=
  if !target.hasUsableHost then empty 400 else
  let method := String.ofList (Text.capitals r.method.toList)
  let refusal (route : Route) : Option Response :=
    if !route.methods.contains method then some (empty 405)
    else if target.isSocket then some (empty 400)
    else none
  match Route.ofPath? target.path with
  | some route => (refusal route).getD (route.answer method r)
  | none => match Route.ofPath? (Target.mergeSlashes target.path) with
    | some route => (refusal route).getD redirection
    | none => empty 404

/-- Answers a request, unless it cannot be sent or its host cannot be shown. -/
def respond (r : Request) : Except Refusal Response := do
  let target ← (Target.ofText r.path).mapError .host
  if r.contentType.toList.any fun c => c == '\n' || c == '\r' then throw .lineEnd
  target.checkShown.mapError .host
  return respondAt target r

end Service
end ExpiryAudit
