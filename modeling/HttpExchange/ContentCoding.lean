import HttpExchange.Failure
import HttpExchange.Request
import HttpExchange.Response

/-!
Packed bodies: long responses are packed for clients that take it, and packed bodies are unpacked
before anyone reads them.
-/
namespace HttpExchange

/-- The ways to pack and unpack bodies. -/
structure Packing where
  gzip : Bytes → Bytes
  gunzip : Bytes → Except UnpackFault Bytes
  inflate : Bytes → Except UnpackFault Bytes

/-- Packing in the gzip and zlib formats. -/
def Packing.standard : Packing where
  gzip := Compression.Gzip.pack
  gunzip bytes := (Compression.Gzip.unpack bytes).mapError .gzip
  inflate bytes := (Compression.Zlib.unpack bytes).mapError .zlib

namespace ContentCoding

/-- The longest body that is sent as it is. -/
def threshold : Nat := 1400

/-- Packs the body of a response that is long enough, not packed yet, and for a client that takes it. -/
def compress (packing : Packing) (request : Request) (response : Response) : Response :=
  if response.body.length ≤ threshold ∨ !request.acceptsGzip ∨ response.headers.contains "Content-Encoding" then
    response
  else
    Message.setBody { response with headers := response.headers.set "Content-Encoding" "gzip" }
      (packing.gzip response.body)

/-- What a content encoding asks of the reader. -/
inductive Coding
  | gzip | deflate | untouched
  deriving Repr, DecidableEq

/-- The coding of a header value, in any letter case and with white space around it. -/
def Coding.ofText (value : String) : Coding :=
  let word := Text.trim (Text.asciiLower value)
  if word = "gzip" ∨ word = "x-gzip" then gzip
  else if word = "deflate" then deflate
  else untouched

/-- Puts the unpacked body in place and drops the header that announced the packing. -/
def unpacked {S : Type} (m : Message S) (body : Bytes) : Message S :=
  Message.setBody { m with headers := m.headers.erase "Content-Encoding" } body

/-- Unpacks the body of a message if its encoding is known. -/
def decode {S : Type} (packing : Packing) (m : Message S) : Except Failure (Message S) :=
  match (m.headers.get? "Content-Encoding").map Coding.ofText with
  | some .gzip => ((packing.gunzip m.body).mapError .decompress).map (unpacked m)
  | some .deflate => ((packing.inflate m.body).mapError .decompress).map (unpacked m)
  | _ => .ok m

end ContentCoding
end HttpExchange
