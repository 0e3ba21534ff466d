import Remediation.Url.Basic

/-!
Reading URLs in the way of the web: white space around a URL and line breaks inside of it are
passed over, backslashes count as slashes in the schemes of the web, and the segments `.` and `..`
of a path are resolved.
-/

namespace Remediation.Url

/-- The characters of a text that count. -/
def significant (cs : List Char) : List Char :=
  let isEdge (c : Char) : Bool := c.toNat ≤ 32
  ((cs.dropWhile isEdge).reverse.dropWhile isEdge).reverse.filter (fun c =>
    c ≠ '\t' ∧ c ≠ '\n' ∧ c ≠ '\r')

def isSchemeChar (c : Char) : Bool :=
  c.isAlphanum || c == '+' || c == '-' || c == '.'

/-- The scheme at the front in lower case, and what follows its colon. -/
def scheme? (cs : List Char) : Option (String × List Char) :=
  match cs.dropWhile isSchemeChar with
  | ':' :: rest =>
      let name := cs.takeWhile isSchemeChar
      if name.head?.any Char.isAlpha then some (String.ofList (name.map Char.toLower), rest)
      else none
  | _ => none

/-! ### Path, query and fragment -/

def isSlash (special : Bool) (c : Char) : Bool :=
  c == '/' || (special && c == '\\')

/-- A segment in which escaped dots are dots and nothing else has changed. -/
def unescapeDots : List Char → List Char
  | '%' :: '2' :: e :: rest =>
      if e = 'e' ∨ e = 'E' then '.' :: unescapeDots rest else '%' :: '2' :: e :: rest
  | c :: rest => c :: unescapeDots rest
  | [] => []

def isSingleDot (segment : List Char) : Bool := unescapeDots segment == ['.']

def isDoubleDot (segment : List Char) : Bool := unescapeDots segment == ['.', '.']

/-- Whether a segment names a drive, as the paths of files may. -/
def isDrive (segment : List Char) : Bool :=
  match segment with
  | [letter, mark] => letter.isAlpha && (mark == ':' || mark == '|')
  | _ => false

/-- The segments without the last one. A drive is never removed. -/
def parent (isFile : Bool) (segments : List String) : List String :=
  match segments with
  | [drive] => if isFile && isDrive drive.toList then [drive] else []
  | segments => segments.dropLast

/-- A segment as it is kept. -/
def keptSegment (isFile : Bool) (before : List String) (segment : List Char) : String :=
  match segment with
  | [letter, '|'] =>
      if isFile && before.isEmpty && letter.isAlpha then String.ofList [letter, ':']
      else String.ofList (percentEncode keepsInPath segment)
  | segment => String.ofList (percentEncode keepsInPath segment)

/-- Resolves segments one after the other, given those that are kept so far. A dot segment at
the end leaves an empty segment. -/
def resolve (isFile : Bool) : List String → List (List Char) → List String
  | kept, [] => kept
  | kept, segment :: rest =>
      if isDoubleDot segment then
        let kept := parent isFile kept
        resolve isFile (if rest.isEmpty then kept ++ [""] else kept) rest
      else if isSingleDot segment then
        resolve isFile (if rest.isEmpty then kept ++ [""] else kept) rest
      else resolve isFile (kept ++ [keptSegment isFile kept segment]) rest

/-- A path with segments. Only other schemes than those of the web have paths without any. -/
def pathOf (scheme : String) (cs : List Char) : Path :=
  let special := isSpecial scheme
  match cs with
  | [] => .segments (if special then [""] else [])
  | c :: rest =>
      let inner := if isSlash special c then rest else c :: rest
      .segments (resolve (scheme == "file") [] (Text.splitOn (isSlash special) inner))

/-- The parts of what follows the authority. -/
structure Tail where
  path : List Char
  query : Option (List Char)
  fragment : Option (List Char)

def Tail.of (cs : List Char) : Tail :=
  let body := cs.takeWhile (· ≠ '#')
  let fragment := (cs.dropWhile (· ≠ '#')).tail?
  ⟨body.takeWhile (· ≠ '?'), (body.dropWhile (· ≠ '?')).tail?, fragment⟩

/-- The URL of a host and of what follows it. -/
def withTail (scheme : String) (host : Option Host) (readPath : List Char → Path)
    (cs : List Char) : Url :=
  let tail := Tail.of cs
  let encoded (keeps : Char → Bool) (part : Option (List Char)) : Option String :=
    part.map (fun cs => String.ofList (percentEncode keeps cs))
  {
    scheme := scheme,
    username := "",
    password := "",
    host := host,
    port := none,
    path := readPath tail.path,
    query := encoded (keepsInQuery (isSpecial scheme)) tail.query,
    fragment := encoded keepsInFragment tail.fragment
  }

/-! ### Authority -/

/-- Whether a character ends an authority. -/
def endsAuthority (special : Bool) (c : Char) : Bool :=
  isSlash special c || c == '?' || c == '#'

/-- What comes before the last at sign, if there is one, and what comes after it. -/
def splitUser (cs : List Char) : Option (List Char) × List Char :=
  let after := (cs.reverse.takeWhile (· ≠ '@')).reverse
  if after.length = cs.length then (none, cs)
  else (some (cs.take (cs.length - after.length - 1)), after)

/-- The host of an authority and what follows it, which is empty or starts with a colon. Colons
in brackets belong to the host. -/
def splitPort (inBrackets : Bool) : List Char → List Char × List Char
  | [] => ([], [])
  | c :: rest =>
      if c = ':' ∧ inBrackets = false then ([], c :: rest)
      else
        let inBrackets := if c = '[' then true else if c = ']' then false else inBrackets
        let (host, port) := splitPort inBrackets rest
        (c :: host, port)

/-- The port after a colon. Without digits it is the usual one. -/
def port? (scheme : String) (cs : List Char) : Except UrlError (Option Nat) :=
  match cs with
  | [] | [_] => .ok none
  | _ :: digits =>
      match digitsIn? 10 digits with
      | some port =>
          if 65535 < port then .error .invalidPort
          else .ok (if defaultPort? scheme = some port then none else some port)
      | none => .error .invalidPort

/-- The URL behind two slashes. -/
def withAuthority (scheme : String) (cs : List Char) : Except UrlError Url := do
  let special := isSpecial scheme
  let authority := cs.takeWhile (!endsAuthority special ·)
  let (user, location) := splitUser authority
  let (hostText, portText) := splitPort false location
  if hostText.isEmpty && (special || user.any (!·.isEmpty) || !portText.isEmpty) then
    .error .emptyHost
  else
    let host ← Host.parse special hostText
    let port ← port? scheme portText
    let url := withTail scheme (some host) (pathOf scheme) (cs.drop authority.length)
    let encoded (cs : List Char) := String.ofList (percentEncode keepsInUserInfo cs)
    let user := user.getD []
    .ok
      {
        url with
        username := encoded (user.takeWhile (· ≠ ':')),
        password := encoded ((user.dropWhile (· ≠ ':')).drop 1),
        port := port
      }

/-- The URL of a file. The host `localhost` goes without saying, and what names a drive is no
host. -/
def ofFile (cs : List Char) : Except UrlError Url :=
  match cs with
  | a :: b :: rest =>
      if isSlash true a && isSlash true b then
        let authority := rest.takeWhile (!endsAuthority true ·)
        if isDrive authority then .ok (withTail "file" (some (.name "")) (pathOf "file") rest)
        else if authority.isEmpty then
          .ok (withTail "file" (some (.name "")) (pathOf "file") rest)
        else do
          let host ← Host.parse true authority
          let host := if host = .name "localhost" then .name "" else host
          .ok (withTail "file" (some host) (pathOf "file") (rest.drop authority.length))
      else .ok (withTail "file" (some (.name "")) (pathOf "file") cs)
  | cs => .ok (withTail "file" (some (.name "")) (pathOf "file") cs)

/-- Reads a URL. -/
def parse (source : String) : Except UrlError Url :=
  match scheme? (significant source.toList) with
  | none => .error .relative
  | some ("file", rest) => ofFile rest
  | some (scheme, rest) =>
      if isSpecial scheme then withAuthority scheme (rest.dropWhile (isSlash true))
      else
        match rest with
        | '/' :: '/' :: rest => withAuthority scheme rest
        | '/' :: rest => .ok (withTail scheme none (pathOf scheme) ('/' :: rest))
        | rest =>
            .ok
              (withTail scheme none
                (fun cs => .rootless (String.ofList (percentEncode keepsInRootless cs))) rest)

end Remediation.Url
