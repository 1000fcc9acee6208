import HttpExchange.Client.Pool
import HttpExchange.Client.Request
import HttpExchange.Client.RoundTrip
import HttpExchange.Config
import HttpExchange.ContentCoding
import HttpExchange.Socket
import HttpExchange.Tls.Registry
import HttpExchange.Wire

/-!
One request of a client, from the claim of a connection to the end of its use. An idle connection is
taken if it was opened in the same TLS context, else a new one is opened. After the response the
connection goes to the pool if the server keeps it open; after a failure it is closed.
-/
namespace HttpExchange

/-- The settings of one exchange, with nothing left open. -/
structure Settings where
  bufferSize : Nat
  connectTimeout : Duration
  readTimeout : Duration
  tlsContext : String
  deriving Repr, DecidableEq

namespace Settings

/-- What the request says, else what the session says, else a default. A read asks for one octet at least. -/
def resolve (options : RequestOptions) (config : ClientConfig) : Settings where
  bufferSize := max ((options.bufferSize.or config.bufferSize).getD 1024) 1
  connectTimeout := (options.connectTimeout.or config.connectTimeout).getD (.seconds 10)
  readTimeout := (options.readTimeout.or config.readTimeout).getD (.seconds 30)
  tlsContext := (options.tlsContext.or config.tlsContext).getD Tls.Registry.defaultName

end Settings

/-- How far an exchange has come; `κ` stands for a connection. -/
inductive ExchangeStage (κ : Type)
  | starting
  | opening
  | talking (entry : PoolEntry κ) (trip : RoundTrip)
  | ended (result : Except Failure Response)

/-- A request with all that is needed to carry it out. -/
structure Exchange (κ : Type) where
  endpoint : Endpoint
  settings : Settings
  request : Request
  stage : ExchangeStage κ

namespace Exchange
variable {κ : Type}

/-- What happens to an exchange. When it begins it learns which idle connections are healthy. -/
inductive Event (κ : Type)
  | begin (healthy : κ → Bool)
  | opened (connection : κ)
  | openFailed (failure : Failure)
  | traffic (event : RoundTrip.Event)
  | cancelled

/-- What an exchange asks of its surroundings. -/
inductive Command (κ : Type)
  | connect
  | send (connection : κ) (octets : Bytes)
  | shutdown (connection : κ)
  | close (connection : κ)
  deriving Repr, DecidableEq

/-- What an event leaves: the exchange, the pool, and what is to be done. -/
structure Outcome (κ : Type) where
  exchange : Exchange κ
  pool : Pool κ
  commands : List (Command κ)

/-- The response comes without a body. -/
def ignoresBody (x : Exchange κ) : Bool := x.request.start.method = .head

def moved (x : Exchange κ) (stage : ExchangeStage κ) : Exchange κ := { x with stage }

def finish (x : Exchange κ) (result : Except Failure Response) : Exchange κ := x.moved (.ended result)

/-- Sends the request over a connection. -/
def startTalking (x : Exchange κ) (pool : Pool κ) (entry : PoolEntry κ) : Outcome κ :=
  ⟨x.moved (.talking entry .writing), pool, [.send entry.connection (Wire.serialize x.request)]⟩

/-- Takes the idle connection of the endpoint, or asks for a new one. -/
def claim (x : Exchange κ) (pool : Pool κ) (healthy : κ → Bool) : Outcome κ :=
  let change := pool.claim healthy x.endpoint
  let closing : List (Command κ) := change.closing.map .close
  match change.entry with
  | none => ⟨x.moved .opening, change.pool, closing ++ [.connect]⟩
  | some entry =>
    if entry.tlsContext = x.settings.tlsContext then
      let outcome := x.startTalking change.pool entry
      { outcome with commands := closing ++ outcome.commands }
    else ⟨x.moved .opening, change.pool, closing ++ [.close entry.connection, .connect]⟩

/-- Keeps or closes the connection as the response says, and then unpacks the body. -/
def conclude (packing : Packing) (x : Exchange κ) (pool : Pool κ) (entry : PoolEntry κ) (response : Response) :
    Outcome κ :=
  let x := x.finish (ContentCoding.decode packing response)
  if response.keepAlive then
    let change := pool.put x.endpoint entry
    ⟨x, change.pool, change.closing.map .close⟩
  else ⟨x, pool, [.shutdown entry.connection, .close entry.connection]⟩

/-- Takes in what happens on the connection. -/
def converse (packing : Packing) (x : Exchange κ) (pool : Pool κ) (entry : PoolEntry κ) (trip : RoundTrip)
    (event : RoundTrip.Event) : Outcome κ :=
  match trip.step x.settings.readTimeout x.ignoresBody event with
  | .ended (.ok response) => x.conclude packing pool entry response
  | .ended (.error failure) => ⟨x.finish (.error failure), pool, [.close entry.connection]⟩
  | trip => ⟨x.moved (.talking entry trip), pool, []⟩

/-- Carries out an event; one that the exchange does not wait for changes nothing. -/
def step (packing : Packing) (x : Exchange κ) (pool : Pool κ) (event : Event κ) : Outcome κ :=
  match x.stage, event with
  | .starting, .begin healthy => x.claim pool healthy
  | .opening, .opened connection =>
    x.startTalking pool ⟨connection, x.settings.bufferSize, x.settings.tlsContext⟩
  | .opening, .openFailed failure => ⟨x.finish (.error failure), pool, []⟩
  | .talking entry trip, .traffic event => x.converse packing pool entry trip event
  | .talking entry _, .cancelled => ⟨x.finish (.error .cancelled), pool, [.close entry.connection]⟩
  | .starting, .cancelled => ⟨x.finish (.error .cancelled), pool, []⟩
  | .opening, .cancelled => ⟨x.finish (.error .cancelled), pool, []⟩
  | _, _ => ⟨x, pool, []⟩

/-- Opens a connection: some address of the host must accept, and for a secure one the context must be
known and trust the peer. -/
def open? (x : Exchange κ) (registry : Tls.Registry) (trusted : Tls.TrustStore → Bool)
    (attempts : List (Except SystemFault κ)) : Except Failure κ :=
  let host := x.endpoint.hostName
  if x.endpoint.isSecure then
    match registry.connector x.settings.tlsContext, reach true host attempts with
    | .error failure, _ => .error failure
    | _, .error failure => .error failure
    | .ok store, .ok connection =>
      if trusted store then .ok connection else .error (.tls (.untrusted host))
  else reach false host attempts

/-- The result, once there is one. -/
def result? (x : Exchange κ) : Option (Except Failure Response) :=
  match x.stage with
  | .ended result => some result
  | _ => none

end Exchange
end HttpExchange
