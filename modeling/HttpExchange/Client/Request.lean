import HttpExchange.Client.Pool
import HttpExchange.Request

/-!
Requests as a client states them: a URL, headers that override those of the session, a body, and
settings of their own.
-/
namespace HttpExchange

/-- Settings that a request may give; what it leaves open the session decides. -/
structure RequestOptions where
  bufferSize : Option Nat
  connectTimeout : Option Duration
  readTimeout : Option Duration
  tlsContext : Option String
  deriving Repr, DecidableEq

/-- What a client asks, before the session's headers are added. -/
structure ClientRequest where
  method : Method
  url : Url
  headers : Headers
  body : Bytes
  options : RequestOptions
  deriving Repr, DecidableEq

namespace ClientRequest

def make (method : Method) (url : String) (headers : List Field) (body : Bytes) (options : RequestOptions) :
    Except Failure ClientRequest :=
  ((Url.ofText url).mapError .invalidUrl).map fun url => ⟨method, url, .ofList headers, body, options⟩

/-- The host header of a URL: the host, and the port if the URL gives one that its scheme does not
imply. -/
def hostHeader (u : Url) : String :=
  u.hostText?.getD "" ++ (u.port.map fun p => ":" ++ Text.decimal p).getD ""

/-- The session's headers with those of the request set over them, and the host if neither names it. -/
def mergedHeaders (r : ClientRequest) (session : Headers) : Headers :=
  let merged := session.setAll r.headers.fields
  if merged.contains "Host" then merged else merged.set "Host" (hostHeader r.url)

/-- The request as it is sent. -/
def toRequest (r : ClientRequest) (session : Headers) : Request :=
  (⟨⟨r.method, r.url.target, "HTTP/1.1"⟩, r.mergedHeaders session, none, []⟩ : Request).setBody r.body

end ClientRequest
end HttpExchange
