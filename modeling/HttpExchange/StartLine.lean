import HttpExchange.Text.Quoted

/-!
What the first lines of requests and responses have in common, and why one can be refused.
-/
namespace HttpExchange

/-- Why a start line is refused. -/
inductive StartLineFault
  | notText
  | requestEmpty
  | targetMissing (line : String)
  | versionMissing (line : String)
  | requestMalformed (line : String)
  | methodUnknown (name : String)
  | statusMalformed (line : String)
  | codeInvalid (line : String)
  | described (reason : String)
  deriving Repr, DecidableEq

namespace StartLineFault
open Text (quoted)

/-- The reason in words. -/
def message : StartLineFault → String
  | notText => "start line is not valid UTF-8"
  | requestEmpty => "empty request line"
  | targetMissing line => "missing request target in " ++ quoted line
  | versionMissing line => "missing version in " ++ quoted line
  | requestMalformed line => "malformed request line " ++ quoted line
  | methodUnknown name => "unknown method " ++ quoted name
  | statusMalformed line => "malformed status line " ++ quoted line
  | codeInvalid line => "invalid status code in " ++ quoted line
  | described reason => reason

end StartLineFault

/-- The first line of a kind of message: how it is read from its text and written back, the protocol
version it names, and whether a body may follow the headers at all. -/
class StartLine (S : Type) where
  ofText : String → Except StartLineFault S
  toText : S → String
  version : S → String
  mayHaveBody : S → Bool

/-- The text every protocol version starts with. -/
def isHttpVersion (version : String) : Bool := "HTTP/".toList.isPrefixOf version.toList

end HttpExchange
