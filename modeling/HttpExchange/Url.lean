import HttpExchange.Url.Host

/-!
Absolute URLs: their parts in normal form, how they are read and how they are written.
-/
namespace HttpExchange

/-- A URL in normal form; path, query and fragment are escaped, credentials include their `@`. -/
structure Url where
  scheme : String
  hasAuthority : Bool
  credentials : String
  host : Option Host
  port : Option Nat
  path : String
  query : Option String
  fragment : Option String
  deriving Repr, DecidableEq

namespace Url

/-- The port that a scheme implies. -/
def defaultPort? (scheme : String) : Option Nat :=
  match scheme with
  | "http" => some 80
  | "ws" => some 80
  | "https" => some 443
  | "wss" => some 443
  | "ftp" => some 21
  | _ => none

/-- A scheme whose URLs always have an authority and take a backslash for a slash. -/
def isSpecial (scheme : String) : Bool := (defaultPort? scheme).isSome || scheme == "file"

def hostText? (u : Url) : Option String := u.host.map Host.toText

/-- The port that is connected to, if the scheme implies one or the URL gives it. -/
def knownPort? (u : Url) : Option Nat := u.port <|> defaultPort? u.scheme

/-- Path and query, as they stand on a request line. -/
def target (u : Url) : String := u.path ++ (u.query.map ("?" ++ ·)).getD ""

/-- The URL as text. A path that starts with two slashes is kept apart from the scheme by `/.`. -/
def toText (u : Url) : String :=
  let authority := if u.hasAuthority then
      "//" ++ u.credentials ++ u.hostText?.getD "" ++ (u.port.map fun p => ":" ++ Text.decimal p).getD ""
    else if "//".toList.isPrefixOf u.path.toList then "/." else ""
  u.scheme ++ ":" ++ authority ++ u.target ++ (u.fragment.map ("#" ++ ·)).getD ""

/-! ## Escapes of each part -/

/-- Characters that a fragment escapes. -/
def escapesInFragment (c : Char) : Bool := Host.isControl c || " \"<>\x60".toList.contains c

def escapesInPath (c : Char) : Bool := escapesInFragment c || "#?\x7b\x7d".toList.contains c

def escapesInCredentials (c : Char) : Bool := escapesInPath c || "/:;=@[\\]^|".toList.contains c

def escapesInQuery (special : Bool) (c : Char) : Bool :=
  Host.isControl c || " \"#<>".toList.contains c || (special && c == '\'')

/-- Escapes the characters of class `p`. -/
def escaped (p : Char → Bool) (cs : List Char) : String := Percent.encodeWhere p (.ofList cs)

/-! ## Reading -/

/-- Characters after which the authority ends. -/
def endsAuthority (special : Bool) (c : Char) : Bool :=
  c == '/' || c == '?' || c == '#' || (special && c == '\\')

/-- Scheme and the rest: a letter, then letters, digits, `+`, `-` and `.`, up to a colon. -/
def scheme? (cs : List Char) : Option (String × List Char) :=
  let isSchemeChar (c : Char) : Bool := c.isAlphanum || c == '+' || c == '-' || c == '.'
  match cs.span isSchemeChar with
  | (first :: more, ':' :: rest) =>
    if first.isAlpha then some (Text.asciiLower (.ofList (first :: more)), rest) else none
  | _ => none

/-- User and password before the last `@`, escaped; an empty password leaves no colon. -/
def credentialsText (cs : List Char) : String :=
  let (user, password) := cs.span (· != ':')
  let user := escaped escapesInCredentials user
  let password := password.drop 1
  if password.isEmpty then (if user.isEmpty then "" else user ++ "@")
  else user ++ ":" ++ escaped escapesInCredentials password ++ "@"

/-- The text before the last `@` of an authority, and what follows it. -/
def splitCredentials (authority : List Char) : Option (List Char × List Char) :=
  let reversed := authority.reverse
  if reversed.contains '@' then
    some (((reversed.dropWhile (· != '@')).drop 1).reverse, (reversed.takeWhile (· != '@')).reverse)
  else none

/-- Host text and the rest: up to a colon outside brackets. -/
def splitHost (inBrackets : Bool) : List Char → List Char × List Char
  | [] => ([], [])
  | c :: rest =>
    if c = ':' ∧ !inBrackets then ([], c :: rest)
    else
      let (host, after) := splitHost (if c = '[' then true else if c = ']' then false else inBrackets) rest
      (c :: host, after)

/-- The port after a colon, and what follows its digits, which a backslash may cut off; no digits, or the
port that the scheme implies, are no port. -/
def portOfText (scheme : String) (cs : List Char) : Except UrlFault (Option Nat × List Char) :=
  match cs.span (· != '\\') with
  | ([], left) => .ok (none, left)
  | (digits, left) => match Text.radix? 10 digits with
    | none => .error .invalidPort
    | some n =>
      if 65535 < n then .error .invalidPort
      else .ok (if defaultPort? scheme = some n then none else some n, left)

/-- Reads the authority of a scheme: credentials, host and port, and what is left of it. -/
def authority (scheme : String) (cs : List Char) (bounded : Bool) :
    Except UrlFault (String × Option Host × Option Nat × List Char) := do
  let special := isSpecial scheme
  let (credentials, hostAndPort) ← match splitCredentials cs with
    | none => pure ("", cs)
    | some ([], []) => if bounded then throw .emptyHost else pure ("", [])
    | some (before, after) => pure (credentialsText before, after)
  let (hostText, afterHost) := splitHost false hostAndPort
  if hostText.isEmpty ∧ (special ∨ !afterHost.isEmpty ∨ !credentials.isEmpty) then throw .emptyHost
  let host ← if hostText.isEmpty then pure none
    else some <$> (if special then Host.ofText hostText else Host.opaqueOfText hostText)
  let (port, left) ← portOfText scheme (afterHost.drop 1)
  return (credentials, host, port, left)

/-- A segment that stands for its own directory. -/
def isHere (segment : String) : Bool := [".", "%2e"].contains (Text.asciiLower segment)

/-- A segment that stands for the directory above. -/
def isUp (segment : String) : Bool := ["..", "%2e.", ".%2e", "%2e%2e"].contains (Text.asciiLower segment)

/-- A letter that names a drive, and the mark after it. -/
def isDrive (segment : String) : Bool :=
  match segment.toList with
  | [c, mark] => c.isAlpha && (mark == ':' || mark == '|')
  | _ => false

/-- The segments of a path as far as they are resolved, the last one first, and whether a drive was
found in front of them. -/
structure Resolved where
  segments : List String
  hasDrive : Bool

namespace Resolved

/-- Leaves the last segment, unless it names a drive, be it before a backslash. -/
def up (r : Resolved) : Resolved :=
  match r.segments with
  | last :: before =>
    if isDrive (.ofList (last.toList.takeWhile (· != '\\'))) then r else { r with segments := before }
  | [] => r

/-- Adds a segment; in front of the path of a file, a drive is written with a colon. -/
def push (inFile : Bool) (r : Resolved) (segment : String) : Resolved :=
  if inFile ∧ r.segments.isEmpty ∧ isDrive segment then
    ⟨[.ofList (segment.toList.take 1) ++ ":"], true⟩
  else { r with segments := segment :: r.segments }

/-- Takes the segments of a path: one for this directory or the one above leaves an empty segment if it
stands at the end. -/
def take (inFile : Bool) (r : Resolved) : List String → Resolved
  | [] => r
  | [last] =>
    if isUp last then { r.up with segments := "" :: r.up.segments }
    else if isHere last then { r with segments := "" :: r.segments }
    else r.push inFile last
  | segment :: rest =>
    take inFile (if isUp segment then r.up else if isHere segment then r else r.push inFile segment) rest

/-- The path, with a slash before each segment. -/
def toText (r : Resolved) : String := String.join (r.segments.reverse.map ("/" ++ ·))

end Resolved

/-- The path of segments, each after a slash. -/
def pathText (special : Bool) (cs : List Char) : String :=
  let segments := Text.splitWhere (fun c => c == '/' || (special && c == '\\')) cs
  (Resolved.take false ⟨[], false⟩ (segments.map (escaped escapesInPath))).toText

/-- The segments of a file's path. -/
def fileSegments (cs : List Char) : List String :=
  (Text.splitWhere (fun c => c == '/' || c == '\\') cs).map (escaped escapesInPath)

/-- The path of a file: the segments after the first slash, without empty ones in front; and whether it
begins with a drive. -/
def filePath (segments : List String) : String × Bool :=
  let r := Resolved.take true ⟨[], false⟩ segments
  (.ofList ('/' :: r.toText.toList.dropWhile (· = '/')), r.hasDrive)

/-- The path of a URL with an authority; only in schemes without rules of their own it may be empty. -/
def hierarchicalPath (special : Bool) (cs : List Char) : String :=
  match cs with
  | [] => if special then "/" else ""
  | c :: rest => pathText special (if c = '/' ∨ (special ∧ c = '\\') then rest else c :: rest)

/-- The text before a query, the query and the fragment. -/
def splitTail (cs : List Char) : List Char × Option (List Char) × Option (List Char) :=
  let (body, fragment) := match cs.span (· != '#') with
    | (before, _ :: after) => (before, some after)
    | (before, []) => (before, none)
  match body.span (· != '?') with
  | (before, _ :: query) => (before, some query, fragment)
  | (before, []) => (before, none, fragment)

/-- Reads the authority and path of a file: a drive in the place of the host begins the path, and a host
goes if the path begins with a drive. -/
def fileBody (cs : List Char) : Except UrlFault (Option Host × String) := do
  let isSlash (c : Char) : Bool := c == '/' || c == '\\'
  match cs with
  | a :: more =>
    if !isSlash a then return (none, (filePath (fileSegments cs)).1)
    match more with
    | b :: rest =>
      if !isSlash b then return (none, (filePath (fileSegments more)).1)
      let (hostText, path) := rest.span (!endsAuthority true ·)
      if isDrive (.ofList hostText) then return (none, (filePath (fileSegments rest)).1)
      let host ← if hostText.isEmpty then pure none else some <$> Host.ofText hostText
      if host = none ∨ host = some (.name "localhost") then
        return (none, (filePath (fileSegments path)).1)
      let (path, hasDrive) := filePath (fileSegments (path.drop 1))
      return (if hasDrive then none else host, path)
    | [] => return (none, "/")
  | [] => return (none, "/")

/-- Reads what follows the scheme, up to the query: whether there is an authority, its parts, and the
path. -/
def body (scheme : String) (cs : List Char) (hasTail : Bool) :
    Except UrlFault (Bool × String × Option Host × Option Nat × String) := do
  let special := isSpecial scheme
  let isSlash (c : Char) : Bool := c == '/' || (special && c == '\\')
  if scheme = "file" then
    let (host, path) ← fileBody cs
    return (true, "", host, none, path)
  else
    let withAuthority (cs : List Char) := do
      let (text, path) := cs.span (!endsAuthority special ·)
      let (credentials, host, port, left) ← authority scheme text (hasTail || !path.isEmpty)
      return (true, credentials, host, port, hierarchicalPath special (left ++ path))
    if special then withAuthority (cs.dropWhile isSlash)
    else match cs with
      | '/' :: '/' :: rest => withAuthority rest
      | '/' :: rest => return (false, "", none, none, pathText false rest)
      | _ => return (false, "", none, none, escaped Host.isControl cs)

/-- Reads an absolute URL. Controls and spaces around it and tabs and line ends in it do not count. -/
def ofText (text : String) : Except UrlFault Url := do
  let trimmed := Text.trimWhere (·.toNat ≤ 32) text.toList
  let cs := trimmed.filter fun c => c != '\t' && c != '\n' && c != '\r'
  match scheme? cs with
  | none => throw .relative
  | some (scheme, rest) =>
    let (before, query, fragment) := splitTail rest
    let (hasAuthority, credentials, host, port, path) ←
      body scheme before (query.isSome || fragment.isSome)
    return {
      scheme, hasAuthority, credentials, host, port, path
      query := query.map (escaped (escapesInQuery (isSpecial scheme)))
      fragment := fragment.map (escaped escapesInFragment) }

end Url
end HttpExchange
