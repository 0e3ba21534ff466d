import Remediation.Json.Printer
import Remediation.Url.Basic

/-!
Requests and what comes of them. A transport carries requests to a network, which is a state; it
may fail to deliver a request or to bring the answer back.
-/

namespace Remediation.Http

/-- The capitals of a letter, for letters whose capitals are ASCII. -/
def asciiCapitals (c : Char) : List Char :=
  match c.toNat with
  | 0x131 => ['I']
  | 0x17F => ['S']
  | 0xDF => ['S', 'S']
  | 0xFB00 => ['F', 'F']
  | 0xFB01 => ['F', 'I']
  | 0xFB02 => ['F', 'L']
  | 0xFB03 => ['F', 'F', 'I']
  | 0xFB04 => ['F', 'F', 'L']
  | 0xFB05 | 0xFB06 => ['S', 'T']
  | _ => [c.toUpper]

/-- Whether a character may be part of the name of a method. -/
def isTokenChar (c : Char) : Bool :=
  c.isAlphanum || "!#$%&'*+-.^_`|~".toList.contains c

/-- The method that a definition names, in capitals. -/
def method? (name : String) : Option String :=
  let capitals := name.toList.flatMap asciiCapitals
  if capitals.isEmpty || !capitals.all isTokenChar then none else some (String.ofList capitals)

/-- Whether a text may be the value of a header. -/
def isHeaderValue (s : String) : Bool :=
  s.toList.all (fun c => c = '\t' || (32 ≤ c.toNat && c.toNat ≠ 127))

/-- A request. -/
structure Request where
  method : String
  url : Url
  /-- The token that says on whose behalf the request is made. -/
  token : Option String
  /-- The JSON value that is sent along. -/
  body : Option Json
  deriving Repr

namespace Request

/-- How every request names who makes it. -/
def agent : String := "cloudmend/0.1.0"

/-- The path and the query, as they are sent. -/
def target (request : Request) : String :=
  request.url.path.text ++ (request.url.query.map ("?" ++ ·)).getD ""

def contentType? (request : Request) : Option String :=
  request.body.map (fun _ => "application/json")

end Request

/-- The answer to a request. -/
structure Response where
  status : Nat
  body : String
  deriving DecidableEq, Repr

/-- Why there is no answer to a request that was made. -/
inductive DeliveryFailure where
  /-- The request did not reach a server. -/
  | unsent
  /-- The answer broke off. -/
  | unread (cause : String)
  deriving DecidableEq, Repr

/-- Carries requests to a network with some state. -/
abbrev Transport (σ : Type) := Request → StateM σ (Except DeliveryFailure Response)

/-- The network that no server is on. -/
def Transport.unreachable {σ : Type} : Transport σ :=
  fun _ => pure (.error .unsent)

/-- Why a request that was to be sent has no answer. -/
inductive SendError where
  /-- No request can be made up at all. -/
  | unbuildable
  /-- No request can be made to a URL like this. -/
  | unsuitable (url : Url)
  | undelivered (url : Url)
  | unread (cause : String)
  deriving DecidableEq, Repr

def SendError.message : SendError → String
  | .unbuildable => "Failed to send request: builder error"
  | .unsuitable url => s!"Failed to send request: builder error for url ({url.text})"
  | .undelivered url => s!"Failed to send request: error sending request for url ({url.text})"
  | .unread cause => s!"Failed to read response body: {cause}"

/-- How long a URL may be that requests are made to. -/
def maxUrlLength : Nat := 65534

/-- Whether requests can be made to a URL with a host. -/
def isAddressable (url : Url) : Bool :=
  let hasPlainHost :=
    match url.host with
    | some (.name name) => !name.toList.any ("\"`\x7b\x7d".toList.contains ·)
    | _ => true
  (url.scheme == "http" || url.scheme == "https") && hasPlainHost
    && url.text.length ≤ maxUrlLength

/-- Sends a request. The URL of a message never has the name of a user in it. -/
def send (transport : Transport σ) (request : Request)
    : StateM σ (Except SendError Response) := do
  let shown := request.url.withoutUser
  if !request.url.hasHost then pure (.error (.unsuitable request.url))
  else if !request.token.all isHeaderValue then pure (.error .unbuildable)
  else if !isAddressable request.url then pure (.error (.unsuitable shown))
  else
    match ← transport request with
    | .ok response => pure (.ok response)
    | .error .unsent => pure (.error (.undelivered shown))
    | .error (.unread cause) => pure (.error (.unread cause))

end Remediation.Http
