import HttpExchange.ContentCoding
import HttpExchange.Parser
import HttpExchange.Wire

/-!
One connection of a server, as a machine that events drive: it reads a request, hands it to a worker,
writes the answer, and either begins again or closes. What cannot be read is answered with a fault
and never reaches a worker.
-/
namespace HttpExchange

/-- What a connection waits for. -/
inductive Stage
  | reading
  | queued
  | writing (response : Bytes)
  | closed
  deriving Repr, DecidableEq

/-- A connection in the middle of its life. Whether it stays open after the response, and whether the
response goes without a body, is settled by the request in hand. -/
structure Connection where
  parser : Parser RequestLine
  stage : Stage
  keepAlive : Bool
  headOnly : Bool
  deriving Repr, DecidableEq

namespace Connection

/-- What happens to a connection. An empty piece is the end of the input. -/
inductive Event
  | received (piece : Bytes)
  | readFailed (cause : SystemFault)
  | replied (response : Response)
  | unanswered
  | written
  | writeFailed (cause : SystemFault)
  | expired
  deriving Repr, DecidableEq

/-- What a connection asks of its surroundings. -/
inductive Effect
  | enqueue (request : Request)
  | send (octets : Bytes)
  | shutdown
  | close
  | ended (failure : Option Failure)
  deriving Repr, DecidableEq

def fresh : Connection := ⟨.fresh, .reading, false, false⟩

/-- The response with the header that says whether the connection stays open, its length declared. -/
def finishResponse (keepAlive : Bool) (response : Response) : Response :=
  { response with
    headers := response.headers.set "Connection" (if keepAlive then "Keep-Alive" else "Close")
    contentLength := some response.body.length }

/-- The octets that go out for a response: all of it, or only the head. -/
def octets (headOnly : Bool) (response : Response) : Bytes :=
  if headOnly then Wire.head response else Wire.serialize response

def startWriting (c : Connection) (octets : Bytes) : Connection × List Effect :=
  ({ c with stage := .writing octets }, [.send octets])

/-- Closes and says how the connection ended. -/
def finish (c : Connection) (failure : Option Failure) : Connection × List Effect :=
  ({ c with stage := .closed }, [.close, .ended failure])

/-- Says goodbye and closes. -/
def shutDown (c : Connection) : Connection × List Effect :=
  ({ c with stage := .closed }, [.shutdown, .close, .ended none])

/-- Answers without a worker; the connection closes afterwards. -/
def fault (c : Connection) (response : Response) : Connection × List Effect :=
  { c with keepAlive := false }.startWriting (octets false (finishResponse false response))

/-- Hands a request to the workers. -/
def dispatch (c : Connection) (request : Request) : Connection × List Effect :=
  ({ c with
      stage := .queued
      keepAlive := request.keepAlive
      headOnly := request.start.method = .head }, [.enqueue request])

/-- Takes out the request that was read and unpacks its body. -/
def accept (packing : Packing) (c : Connection) : Connection × List Effect :=
  let (request, parser) := c.parser.take
  let c := { c with parser }
  match request with
  | none => c.fault Response.internalError
  | some request =>
    match ContentCoding.decode packing request with
    | .error _ => c.fault Response.badRequest
    | .ok request => c.dispatch request

/-- Reads a piece. -/
def read (packing : Packing) (c : Connection) (piece : Bytes) : Connection × List Effect :=
  if piece = [] then c.finish none
  else
    let (progress, parser) := c.parser.feed piece
    let c := { c with parser }
    match progress with
    | .ok .needMore => (c, [])
    | .ok .complete => c.accept packing
    | .error _ => c.fault Response.badRequest

/-- What an event makes of a connection. An event that the connection does not wait for leaves it as it
is; a time limit may run out at any moment before the end. -/
def step (packing : Packing) (c : Connection) (event : Event) : Connection × List Effect :=
  match c.stage, event with
  | .closed, _ => (c, [])
  | _, .expired => c.finish none
  | .reading, .received piece => c.read packing piece
  | .reading, .readFailed cause => c.finish (some (.socketRead cause))
  | .queued, .replied response =>
    c.startWriting (octets c.headOnly (finishResponse c.keepAlive response))
  | .queued, .unanswered => { c with keepAlive := false }.shutDown
  | .writing _, .written =>
    if c.keepAlive then ({ c with stage := .reading, parser := c.parser.reset }, []) else c.shutDown
  | .writing _, .writeFailed cause => c.finish (some (.socketWrite cause))
  | _, _ => (c, [])

/-- Goes through events in turn and collects the effects. -/
def run (packing : Packing) (c : Connection) : List Event → Connection × List Effect
  | [] => (c, [])
  | event :: rest =>
    let (c, effects) := c.step packing event
    let (c, later) := c.run packing rest
    (c, effects ++ later)

/-- Reads a piece, and if that completes a request has it answered and the answer written; also gives
what was sent. -/
def exchange (packing : Packing) (respond : Request → Response) (c : Connection) (piece : Bytes) :
    Connection × Bytes :=
  let sent (effects : List Effect) : Bytes := effects.flatMap fun
    | .send octets => octets
    | _ => []
  match c.step packing (.received piece) with
  | (c, [.enqueue request]) =>
    let (c, effects) := c.run packing [.replied (respond request), .written]
    (c, sent effects)
  | (c, effects) =>
    let (c, later) := c.run packing [.written]
    (c, sent (effects ++ later))

/-- Reads pieces in turn up to the end of the connection, with every request answered at once. -/
def exchangeAll (packing : Packing) (respond : Request → Response) (c : Connection) :
    List Bytes → Connection × Bytes
  | [] => (c, [])
  | piece :: rest =>
    let (c, sent) := c.exchange packing respond piece
    let (c, later) := c.exchangeAll packing respond rest
    (c, sent ++ later)

end Connection
end HttpExchange
