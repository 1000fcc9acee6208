import HttpExchange.Message
import HttpExchange.Text.Utf8

/-!
Messages as octets. The length of the body is always written from the body, so a stale header
cannot put the reader out of step.
-/
namespace HttpExchange.Wire
variable {S : Type}

def line (text : String) : Bytes := Utf8.encode text ++ Bytes.crlf

/-- A field with a colon and a space between name and value. -/
def fieldLine (field : Field) : Bytes :=
  Utf8.encode field.name ++ [58, 32] ++ Utf8.encode field.value ++ Bytes.crlf

/-- The fields that are written as they are. -/
def ownFields (headers : Headers) : List Field :=
  headers.fields.filter fun field => !Headers.named "Content-Length" field

/-- Start line and headers, to the blank line that ends them. -/
def head [StartLine S] (m : Message S) : Bytes :=
  line (StartLine.toText m.start) ++ (ownFields m.headers).flatMap fieldLine ++
    line ("Content-Length: " ++ Text.decimal m.body.length) ++ Bytes.crlf

/-- The whole message. -/
def serialize [StartLine S] (m : Message S) : Bytes := head m ++ m.body

end HttpExchange.Wire
