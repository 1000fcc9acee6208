import HttpExchange.Message
import HttpExchange.Status
import HttpExchange.Text.Basic
import HttpExchange.Text.Utf8

/-!
Responses: the status line, and the responses that a server makes itself.
-/
namespace HttpExchange
open Text (trim natural? decimal)

/-- The first line of a response. -/
structure StatusLine where
  status : Status
  reason : String
  version : String
  deriving Repr, DecidableEq

namespace StatusLine

/-- The status of a code of three digits in size, from 100 to 999. -/
def status? (code : String) : Option Status :=
  ((natural? (trim code)).filter fun n => 100 ≤ n ∧ n < 1000).map Status.ofCode

/-- Reads version, code and reason, parted by the first two spaces; code and reason may be wrapped in
white space. -/
def ofText (line : String) : Except StartLineFault StatusLine :=
  let (version, rest) := (Text.cut? ' ' line).elim (line, none) fun (v, r) => (v, some r)
  if !isHttpVersion version then .error (.statusMalformed line)
  else match rest with
    | none => .error (.codeInvalid line)
    | some rest =>
      let (code, reason) := (Text.cut? ' ' rest).getD (rest, "")
      match status? code with
      | none => .error (.codeInvalid line)
      | some status => .ok ⟨status, trim reason, version⟩

/-- The phrase that is written: the reason, or the standard phrase in place of an empty one. -/
def writtenReason (line : StatusLine) : String :=
  if line.reason.isEmpty then line.status.phrase else line.reason

/-- Writes version, code and reason. -/
def toText (line : StatusLine) : String :=
  line.version ++ " " ++ decimal line.status.code ++ " " ++ line.writtenReason

instance : StartLine StatusLine where
  ofText := ofText
  toText := toText
  version := StatusLine.version
  mayHaveBody line := !line.status.isBodiless

end StatusLine

/-- What a server answers. -/
abbrev Response := Message StatusLine

namespace Response

/-- A response with the standard phrase and the length of its body declared. -/
def make (status : Status) (headers : List Field) (body : Bytes) : Response :=
  (⟨⟨status, status.phrase, "HTTP/1.1"⟩, .ofList headers, none, []⟩ : Response).setBody body

def ok (body : Bytes) : Response := make .ok [] body

def ofStatus (status : Status) : Response := make status [] []

/-- The request cannot be read. -/
def badRequest : Response := make .badRequest [] (Utf8.encode "400 Bad Request")

/-- Nothing is served under this path. -/
def notFound : Response := make .notFound [] (Utf8.encode "404 Not Found")

/-- The service failed. -/
def internalError : Response := make .internalServerError [] (Utf8.encode "500 Internal Server Error")

/-- The body as text, malformed pieces replaced. -/
def text (r : Response) : String := Utf8.decodeLossy r.body

end Response
end HttpExchange
