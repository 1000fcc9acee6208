import HttpExchange.Message
import HttpExchange.Percent

/-!
Requests: the methods that are understood, the request line, the parts of the target, and what a server asks of a
request.
-/
namespace HttpExchange
open Text (words)

/-- What a request asks to be done with its target. -/
inductive Method
  | get | post | put | delete | head | options | patch
  deriving Repr, DecidableEq

namespace Method

/-- The name on the wire. -/
def name : Method → String
  | get => "GET"
  | post => "POST"
  | put => "PUT"
  | delete => "DELETE"
  | head => "HEAD"
  | options => "OPTIONS"
  | patch => "PATCH"

def all : List Method := [get, post, put, delete, head, options, patch]

/-- The method of a name, in capitals only. -/
def ofName? (name : String) : Option Method := all.find? (·.name = name)

theorem ofName?_name (m : Method) : ofName? m.name = some m := by cases m <;> decide

end Method

/-- The first line of a request. -/
structure RequestLine where
  method : Method
  target : String
  version : String
  deriving Repr, DecidableEq

namespace RequestLine

/-- Reads exactly three words: method, target and version. -/
def ofText (line : String) : Except StartLineFault RequestLine :=
  match words line with
  | [] => .error .requestEmpty
  | [_] => .error (.targetMissing line)
  | [_, _] => .error (.versionMissing line)
  | name :: target :: version :: more =>
    if more ≠ [] ∨ !isHttpVersion version then .error (.requestMalformed line)
    else match Method.ofName? name with
      | none => .error (.methodUnknown name)
      | some method => .ok ⟨method, target, version⟩

/-- Writes the three words. -/
def toText (line : RequestLine) : String := line.method.name ++ " " ++ line.target ++ " " ++ line.version

instance : StartLine RequestLine where
  ofText := ofText
  toText := toText
  version := RequestLine.version
  mayHaveBody _ := true

end RequestLine

/-- What a client asks. -/
abbrev Request := Message RequestLine

namespace Request

/-- A request with its body's length declared. -/
def make (method : Method) (target version : String) (headers : List Field) (body : Bytes) : Request :=
  (⟨⟨method, target, version⟩, .ofList headers, none, []⟩ : Request).setBody body

/-- What a request lacks to be built. -/
inductive Missing
  | method | target
  deriving Repr, DecidableEq

/-- The lack in words. -/
def Missing.message : Missing → String
  | method => "method missing"
  | target => "target missing"

/-- A request from parts that may be absent; the version has a default, method and target have not. -/
def build (method : Option Method) (target version : Option String) (headers : List Field)
    (body : Bytes) : Except Missing Request :=
  match method, target with
  | none, _ => .error .method
  | _, none => .error .target
  | some method, some target => .ok (make method target (version.getD "HTTP/1.1") headers body)

/-- The target up to its first question mark. -/
def path (r : Request) : String := ((Text.cut? '?' r.start.target).map Prod.fst).getD r.start.target

/-- The target after its first question mark. -/
def query? (r : Request) : Option String := (Text.cut? '?' r.start.target).map Prod.snd

/-- The path with its escapes resolved; a plus stays a plus. -/
def decodedPath (r : Request) : String := Utf8.decodeLossy (Percent.decode (Utf8.encode r.path))

def queryPairs (r : Request) : List (String × String) := (r.query?.map Query.pairs).getD []

/-- A coding that starts with `gzip` in some letter case. -/
def isGzipCoding (coding : String) : Bool :=
  "gzip".toList.isPrefixOf (Text.asciiLower (Text.trim coding)).toList

/-- The client takes gzip. -/
def acceptsGzip (r : Request) : Bool :=
  match r.headers.get? "Accept-Encoding" with
  | some codings => (Text.splitAt ',' codings).any isGzipCoding
  | none => false

end Request
end HttpExchange
