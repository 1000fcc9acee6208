import HttpExchange.Failure
import HttpExchange.Response

/-!
A request on its way out and its response on its way in. The first event that decides is the last that
counts: the response is complete or cannot be read, the connection fails or ends, or time runs out.
-/
namespace HttpExchange

/-- How far the request and its response have come. -/
inductive RoundTrip
  | writing
  | reading (parser : Parser StatusLine)
  | ended (result : Except Failure Response)

namespace RoundTrip

/-- What happens on the connection. An empty piece is the end of the input. -/
inductive Event
  | written
  | writeFailed (cause : SystemFault)
  | writeExpired
  | received (piece : Bytes)
  | readFailed (cause : SystemFault)
  | readExpired
  deriving Repr, DecidableEq

def failed (failure : Failure) : RoundTrip := ended (.error failure)

/-- Takes in a piece of the response. -/
def read (parser : Parser StatusLine) (piece : Bytes) : RoundTrip :=
  if piece = [] then failed (.socketRead .endedEarly)
  else match parser.feed piece with
    | (.error e, _) => failed (.parse e)
    | (.ok .needMore, parser) => reading parser
    | (.ok .complete, parser) =>
      match parser.take.1 with
      | some response => ended (.ok response)
      | none => failed (.socketRead .messageMissing)

/-- What an event makes of the round trip; after the end, and for events that it does not wait for,
nothing changes. -/
def step (limit : Duration) (ignoreBody : Bool) (trip : RoundTrip) (event : Event) : RoundTrip :=
  match trip, event with
  | writing, .written => reading (.freshIgnoring ignoreBody)
  | writing, .writeFailed cause => failed (.socketWrite cause)
  | writing, .writeExpired => failed (.timeout .write limit)
  | reading parser, .received piece => read parser piece
  | reading _, .readFailed cause => failed (.socketRead cause)
  | reading _, .readExpired => failed (.timeout .read limit)
  | trip, _ => trip

def run (limit : Duration) (ignoreBody : Bool) (trip : RoundTrip) (events : List Event) : RoundTrip :=
  events.foldl (step limit ignoreBody) trip

def result? : RoundTrip → Option (Except Failure Response)
  | ended result => some result
  | _ => none

end RoundTrip
end HttpExchange
