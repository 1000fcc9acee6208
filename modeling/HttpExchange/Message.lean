import HttpExchange.Bytes
import HttpExchange.Headers
import HttpExchange.StartLine
import HttpExchange.Text.Basic

/-!
Messages: a start line, headers, the declared length of the body and the body itself.
-/
namespace HttpExchange

/-- A message with a start line of kind `S`. -/
structure Message (S : Type) where
  start : S
  headers : Headers
  contentLength : Option Nat
  body : Bytes
  deriving Repr, DecidableEq

namespace Message
variable {S : Type}

/-- A message of which only the start line is known. -/
def ofStart (start : S) : Message S := ⟨start, .empty, none, []⟩

/-- Replaces the body and declares its length. -/
def setBody (m : Message S) (body : Bytes) : Message S :=
  { m with
    body
    contentLength := some body.length
    headers := m.headers.set "Content-Length" (Text.decimal body.length) }

/-- The body is as long as declared, or longer. -/
def isComplete (m : Message S) : Bool :=
  match m.contentLength with
  | some length => length ≤ m.body.length
  | none => false

/-- What headers and version say about keeping the connection open: an explicit word wins, else
version 1.1 keeps it and every other closes it. -/
def keepAliveUnder (headers : Headers) (version : String) : Bool :=
  let byVersion := Text.sameIgnoringCase version "HTTP/1.1"
  match headers.get? "Connection" with
  | some word =>
    if Text.sameIgnoringCase word "close" then false
    else if Text.sameIgnoringCase word "keep-alive" then true
    else byVersion
  | none => byVersion

/-- The sender means to keep the connection open. -/
def keepAlive [StartLine S] (m : Message S) : Bool :=
  keepAliveUnder m.headers (StartLine.version m.start)

/-- The message may carry a body. -/
def mayHaveBody [StartLine S] (m : Message S) : Bool := StartLine.mayHaveBody m.start

end Message
end HttpExchange
