import HttpExchange.Compression.Wrapped
import HttpExchange.Duration
import HttpExchange.Parser
import HttpExchange.Regex.Automaton
import HttpExchange.Regex.Reader
import HttpExchange.Tls.Fault
import HttpExchange.Url

/-!
Everything that can go wrong in an exchange, as causes, and the words for each.
-/
namespace HttpExchange

/-- Why an operating system call failed. -/
inductive SystemFault
  | refused
  | unreachable
  | reset
  | brokenPipe
  | socketClosed
  | endedEarly
  | messageMissing
  | noEndpoints
  | wouldBlockItself
  | unreadablePem (fault : Tls.Pem.Fault)
  | described (reason : String)
  deriving Repr, DecidableEq

/-- The reason in words. -/
def SystemFault.message : SystemFault → String
  | refused => "Connection refused (os error 111)"
  | unreachable => "Network is unreachable (os error 101)"
  | reset => "Connection reset by peer (os error 104)"
  | brokenPipe => "Broken pipe (os error 32)"
  | socketClosed => "socket is closed"
  | endedEarly => "connection closed before the response was complete"
  | messageMissing => "parser completed without a message"
  | noEndpoints => "no endpoints to connect to"
  | wouldBlockItself => "blocking send on the reactor thread would deadlock"
  | unreadablePem fault => fault.message
  | described reason => reason

/-- Why a body cannot be unpacked. -/
inductive UnpackFault
  | gzip (fault : Compression.Gzip.Fault)
  | zlib (fault : Compression.Fault)
  | described (reason : String)
  deriving Repr, DecidableEq

def Compression.Fault.message : Compression.Fault → String
  | truncated => "incomplete deflate stream"
  | corrupt => "corrupt deflate stream"

/-- A fault in a wrapped stream in words. -/
def Compression.Gzip.Fault.message : Compression.Gzip.Fault → String
  | headInvalid => "invalid gzip header"
  | fieldTooLong => "gzip header field too long"
  | cutShort => "unexpected end of file"
  | data fault => fault.message
  | checksum => "corrupt gzip stream does not have a matching checksum"

/-- The reason in words. -/
def UnpackFault.message : UnpackFault → String
  | gzip fault => fault.message
  | zlib fault => fault.message
  | described reason => reason

/-- What a time limit was set for. -/
inductive Operation
  | connect | read | write
  deriving Repr, DecidableEq

/-- The operation in words. -/
def Operation.name : Operation → String
  | connect => "connect"
  | read => "read"
  | write => "write"

/-- Why a route is not taken. -/
inductive PatternFault
  | noSlash
  | unreadable (fault : Regex.Fault)
  | described (reason : String)
  deriving Repr, DecidableEq

def Regex.Fault.message : Regex.Fault → String
  | unreadable => "regex parse error"
  | tooLarge => "Compiled regex exceeds size limit of " ++ Text.decimal Draft.limit ++ " bytes."

/-- The reason in words. -/
def PatternFault.message : PatternFault → String
  | unreadable fault => fault.message
  | noSlash => "literal routes must start with '/'"
  | described reason => reason

/-- Everything that can go wrong in an exchange. -/
inductive Failure
  | hostResolve (host : String) (cause : SystemFault)
  | endpointConnect (host : String) (cause : SystemFault)
  | socketRead (cause : SystemFault)
  | socketWrite (cause : SystemFault)
  | timeout (operation : Operation) (after : Duration)
  | parse (cause : ParseError)
  | routePattern (pattern : String) (cause : PatternFault)
  | tls (cause : TlsFault)
  | decompress (cause : UnpackFault)
  | unsupportedScheme (scheme : String)
  | invalidUrl (cause : UrlFault)
  | system (cause : SystemFault)
  | cancelled
  deriving Repr, DecidableEq

namespace Failure

/-- The failure in words. -/
def message : Failure → String
  | hostResolve host cause => "failed to resolve host " ++ host ++ ": " ++ cause.message
  | endpointConnect host cause => "failed to connect to " ++ host ++ ": " ++ cause.message
  | socketRead cause => "socket read error: " ++ cause.message
  | socketWrite cause => "socket write error: " ++ cause.message
  | timeout operation after => operation.name ++ " timed out after " ++ after.toText
  | parse cause => "parse error: " ++ cause.message
  | routePattern pattern cause => "invalid route pattern " ++ Text.quoted pattern ++ ": " ++ cause.message
  | tls cause => "tls error: " ++ cause.message
  | decompress cause => "failed to decompress body: " ++ cause.message
  | unsupportedScheme scheme => "unsupported url scheme " ++ Text.quoted scheme
  | invalidUrl cause => "invalid url: " ++ cause.message
  | system cause => "io error: " ++ cause.message
  | cancelled => "request cancelled before completion"

/-- A time limit ran out. -/
def isTimeout : Failure → Bool
  | timeout _ _ => true
  | _ => false

/-- The connection broke while it was in use. -/
def isConnectionLost : Failure → Bool
  | socketRead _ => true
  | socketWrite _ => true
  | _ => false

end Failure
end HttpExchange
