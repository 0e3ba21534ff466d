import Remediation.Url.Host

/-!
URLs in normal form: their parts as they are written, every part escaped, a path without `.` and
`..` where it has segments.
-/

namespace Remediation

namespace Url

/-- A path: a text of its own or segments. -/
inductive Path where
  | rootless (text : String)
  | segments (segments : List String)
  deriving DecidableEq, Repr

end Url

/-- A URL. -/
structure Url where
  scheme : String
  /-- The name of a user, which may be empty. -/
  username : String
  /-- Empty if there is none. -/
  password : String
  host : Option Url.Host
  /-- The port, unless it is the usual one of the scheme. -/
  port : Option Nat
  path : Url.Path
  query : Option String
  fragment : Option String
  deriving DecidableEq, Repr

namespace Url

/-- The schemes of the web, whose URLs always have a host and a path. -/
def isSpecial (scheme : String) : Bool :=
  ["http", "https", "ws", "wss", "ftp", "file"].contains scheme

/-- The usual port of a scheme. -/
def defaultPort? (scheme : String) : Option Nat :=
  match scheme with
  | "http" | "ws" => some 80
  | "https" | "wss" => some 443
  | "ftp" => some 21
  | _ => none

/-- Whether there is a host with a name or an address. -/
def hasHost (url : Url) : Bool :=
  match url.host with
  | none => false
  | some (.name text) => !text.isEmpty
  | some _ => true

/-- The URL without the name of a user. -/
def withoutUser (url : Url) : Url :=
  { url with username := "", password := "" }

def Path.text : Path → String
  | .rootless whole => whole
  | .segments parts => String.join (parts.map ("/" ++ ·))

/-- What comes before the host. -/
def userText (url : Url) : String :=
  let password := if url.password.isEmpty then "" else ":" ++ url.password
  let user := url.username ++ password
  if user.isEmpty then "" else user ++ "@"

/-- The host with what belongs to it. A path that starts with two slashes is kept from looking
like one. -/
def authorityText (url : Url) : String :=
  match url.host, url.path with
  | some host, _ =>
      "//" ++ url.userText ++ host.text ++ (url.port.map (fun port => s!":{port}")).getD ""
  | none, .segments ("" :: _ :: _) => "/."
  | none, _ => ""

/-- The text of a URL. -/
def text (url : Url) : String :=
  url.scheme ++ ":" ++ url.authorityText ++ url.path.text
    ++ (url.query.map ("?" ++ ·)).getD "" ++ (url.fragment.map ("#" ++ ·)).getD ""

/-- The URL with names and values added to its query. -/
def addQuery (url : Url) (pairs : List (String × String)) : Url :=
  if pairs.isEmpty then url
  else
    match url.query.filter (!·.isEmpty) with
    | some query => { url with query := some (query ++ "&" ++ formText pairs) }
    | none => { url with query := some (formText pairs) }

end Url

end Remediation
