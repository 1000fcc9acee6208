import HttpExchange.Client.Exchange

/-!
Exchanges that share a pool, and the connections they use. Every interleaving of their steps with what the peers
do is a list of actions, each of which is atomic: an exchange first learns what happened, then takes it in, and
what it orders is carried out order by order. Both exchanges and connections are known by their numbers.
-/
namespace HttpExchange

/-- A connection: what it was opened for, its socket, whether anything waits on the stream below a secure one,
which exchanges wrote which requests on it, and all octets that its peer sent. -/
structure Line where
  endpoint : Endpoint
  tlsContext : String
  socket : Socket
  backlog : Bool
  asked : List (Nat × Request)
  came : Bytes
  deriving Repr, DecidableEq

/-- An exchange among others, with what it learned and did not take in yet, and what it ordered and was not
carried out yet. -/
structure Party where
  exchange : Exchange Nat
  news : Option RoundTrip.Event
  orders : List (Exchange.Command Nat)

/-- A pool with all exchanges and all connections that were ever opened. -/
structure Sharing where
  pool : Pool Nat
  parties : List Party
  lines : List Line

/-- The connections that are to be closed. -/
def Exchange.closings {κ : Type} (orders : List (Exchange.Command κ)) : List κ :=
  orders.filterMap fun
    | .close connection => some connection
    | _ => none

namespace Line

/-- A connection that was just opened. -/
def fresh (endpoint : Endpoint) (tlsContext : String) : Line :=
  ⟨endpoint, tlsContext, ⟨endpoint.isSecure, some .fresh⟩, false, [], []⟩

/-- An idle connection passes for one that can carry a request. A plain one does not if its peer has said goodbye
or sent what nobody asked for. A secure one is judged by the stream below it, where a goodbye does not show as
long as anything waits in front of it. -/
def isHealthy (line : Line) : Bool :=
  match line.socket.stream with
  | none => false
  | some stream => if line.socket.secure then line.backlog || !stream.peerEnded else stream.isQuiet

/-- An exchange writes its request, if the socket takes it. -/
def ask (line : Line) (exchange : Nat) (request : Request) (octets : Bytes) : Line :=
  match line.socket.write [octets] with
  | .ok (_, socket) => { line with socket, asked := line.asked ++ [(exchange, request)] }
  | .error _ => line

/-- The peer sends octets, unless it has said goodbye or there is nobody to send them to. -/
def answer? (line : Line) (octets : Bytes) : Option Line :=
  line.socket.stream.bind fun stream =>
    if stream.peerEnded then none
    else some { line with
      socket := { line.socket with stream := some (stream.arrive octets) }
      came := line.came ++ octets }

/-- The peer says goodbye. -/
def hangUp (line : Line) : Line :=
  { line with
    socket := { line.socket with stream := line.socket.stream.map fun stream => { stream with peerEnded := true } } }

def shutdown (line : Line) : Line := { line with socket := line.socket.shutdown.2 }

def release (line : Line) : Line := { line with socket := line.socket.close.2 }

end Line

namespace Sharing

/-- An atomic step of an exchange, of a peer, or of someone who tidies the pool. An exchange may be cancelled at
any moment, and what waits below a secure connection may change at any moment. -/
inductive Action
  | begin (exchange : Nat)
  | obey (exchange : Nat)
  | opened (exchange : Nat)
  | openFailed (exchange : Nat) (failure : Failure)
  | traffic (exchange : Nat) (event : RoundTrip.Event)
  | read (exchange : Nat) (count : Nat)
  | react (exchange : Nat)
  | cancelled (exchange : Nat)
  | answered (line : Nat) (octets : Bytes)
  | hungUp (line : Nat)
  | stirred (line : Nat) (backlog : Bool)
  | remove (endpoint : Endpoint)
  | clear
  deriving Repr, DecidableEq

/-- Exchanges before their start, and no connection yet. -/
def start (exchanges : List (Exchange Nat)) : Sharing :=
  ⟨.empty, exchanges.map fun x => ⟨x.moved .starting, none, []⟩, []⟩

/-- The connection of a number passes for one that can carry a request. -/
def isHealthy (s : Sharing) (line : Nat) : Bool := (s.lines[line]?.map Line.isHealthy).getD false

/-- Carries out what an exchange orders. -/
def obey (exchange : Nat) (request : Request) (lines : List Line) : Exchange.Command Nat → List Line
  | .connect => lines
  | .send l octets => lines.modify l (·.ask exchange request octets)
  | .shutdown l => lines.modify l .shutdown
  | .close l => lines.modify l .release

def release (lines : List Line) (closing : List Nat) : List Line :=
  closing.foldl (fun lines l => lines.modify l .release) lines

/-- An exchange takes in an event. What it orders is carried out later. -/
def deliver (packing : Packing) (s : Sharing) (i : Nat) (party : Party) (event : Exchange.Event Nat) : Sharing :=
  let outcome := party.exchange.step packing s.pool event
  { s with
    pool := outcome.pool
    parties := s.parties.set i ⟨outcome.exchange, none, party.orders ++ outcome.commands⟩ }

/-- An exchange learns what happened on its connection. -/
def learn (s : Sharing) (i : Nat) (party : Party) (event : RoundTrip.Event) : Sharing :=
  { s with parties := s.parties.set i { party with news := some event } }

/-- The event comes neither from what the peer sent nor from its goodbye. -/
def isOutside : RoundTrip.Event → Bool
  | .received _ => false
  | _ => true

/-- An exchange whose orders are carried out reads up to `count` octets, one at least and no more than its buffer
takes; nothing is read once the peer has said goodbye and all has been read. -/
def read? (s : Sharing) (i count : Nat) : Option Sharing := do
  let party ← s.parties[i]?
  match party.exchange.stage, party.orders, party.news with
  | .talking entry (.reading _), [], none =>
    let line ← s.lines[entry.connection]?
    match line.socket.read (min (max count 1) entry.bufferSize) with
    | .ok (some (piece, socket)) =>
      some ({ s with lines := s.lines.set entry.connection { line with socket } }.learn i party (.received piece))
    | _ => none
  | _, _, _ => none

/-- Carries out an action if it is possible. -/
def step? (packing : Packing) (s : Sharing) : Action → Option Sharing
  | .begin i => do
    let party ← s.parties[i]?
    match party.exchange.stage with
    | .starting => some (s.deliver packing i party (.begin s.isHealthy))
    | _ => none
  | .obey i => do
    let party ← s.parties[i]?
    match party.orders with
    | order :: rest => some { s with
        parties := s.parties.set i { party with orders := rest }
        lines := obey i party.exchange.request s.lines order }
    | [] => none
  | .opened i => do
    let party ← s.parties[i]?
    match party.exchange.stage, party.orders with
    | .opening, [] =>
      let line := Line.fresh party.exchange.endpoint party.exchange.settings.tlsContext
      some ({ s with lines := s.lines ++ [line] }.deliver packing i party (.opened s.lines.length))
    | _, _ => none
  | .openFailed i failure => do
    let party ← s.parties[i]?
    match party.exchange.stage, party.orders with
    | .opening, [] => some (s.deliver packing i party (.openFailed failure))
    | _, _ => none
  | .traffic i event => do
    let party ← s.parties[i]?
    match party.exchange.stage, party.orders, party.news with
    | .talking _ _, [], none => if isOutside event then some (s.learn i party event) else none
    | _, _, _ => none
  | .read i count => s.read? i count
  | .react i => do
    let party ← s.parties[i]?
    let event ← party.news
    some (s.deliver packing i party (.traffic event))
  | .cancelled i => do
    let party ← s.parties[i]?
    let outcome := party.exchange.step packing s.pool .cancelled
    some ⟨outcome.pool, s.parties.set i ⟨outcome.exchange, none, []⟩,
      release s.lines (Exchange.closings (party.orders ++ outcome.commands))⟩
  | .answered l octets => do
    let line ← s.lines[l]?
    let line ← line.answer? octets
    some { s with lines := s.lines.set l line }
  | .hungUp l => some { s with lines := s.lines.modify l .hangUp }
  | .stirred l backlog => some { s with lines := s.lines.modify l fun line => { line with backlog } }
  | .remove endpoint =>
    let change := s.pool.remove endpoint
    some { s with pool := change.pool, lines := release s.lines change.closing }
  | .clear =>
    let change := s.pool.clear
    some { s with pool := change.pool, lines := release s.lines change.closing }

/-- What an action leaves; one that is not possible changes nothing. -/
def after (packing : Packing) (s : Sharing) (action : Action) : Sharing := (s.step? packing action).getD s

/-- Carries out actions in turn and passes over those that are not possible. -/
def run (packing : Packing) (s : Sharing) (actions : List Action) : Sharing := actions.foldl (after packing) s

end Sharing
end HttpExchange
