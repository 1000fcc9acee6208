import HttpExchange.Client.Session
import HttpExchange.Server.Conversation

/-!
The peers that a client can reach, and what a request comes to among them. A peer answers from a script,
or as a server does, or not at all.
-/
namespace HttpExchange

/-- One reply of a script: the octets, and whether the peer hangs up after them. -/
structure ScriptedReply where
  octets : Bytes
  hangsUp : Bool
  deriving Repr, DecidableEq

/-- How a peer answers. -/
inductive Answering
  | script (rest : List ScriptedReply)
  | silent
  | server (respond : Request → Response) (readSize : Nat) (conversation : Conversation)

/-- The other end of a connection: what the client has not read yet, whether this end has hung up, and
whether it was asked anything after its script was over. -/
structure Peer where
  answering : Answering
  unread : Bytes
  closed : Bool
  surprised : Bool

/-- All peers, by the number of the connection to each; how connections to come are answered; and how
every attempt to connect fails, if it does. -/
structure Network where
  fault : Option SystemFault
  peers : List Peer
  coming : List Answering
  otherwise : Answering
  trusted : Tls.TrustStore → Bool

namespace Peer

/-- A peer that has not been asked anything. -/
def fresh (answering : Answering) : Peer := ⟨answering, [], false, false⟩

/-- The connection can carry a request. -/
def isHealthy (p : Peer) : Bool := p.unread.isEmpty && !p.closed

/-- Takes in a request and answers it. A peer whose script is over hangs up. -/
def hear (packing : Packing) (p : Peer) (octets : Bytes) : Peer :=
  match p.answering with
  | .silent => p
  | .script [] => { p with closed := true, surprised := true }
  | .script (reply :: rest) =>
    { p with answering := .script rest, unread := p.unread ++ reply.octets, closed := reply.hangsUp }
  | .server respond size conversation =>
    let (sent, conversation) := ((conversation.hear octets).settle packing respond size).readAll
    { p with
      answering := .server respond size conversation
      unread := p.unread ++ sent
      closed := conversation.isOver }

end Peer

namespace Network

/-- A network in which nobody can be reached. -/
def offline : Network := ⟨some .unreachable, [], [], .silent, fun _ => false⟩

/-- The connection of a number can carry a request. -/
def isHealthy (n : Network) (line : Nat) : Bool := (n.peers[line]?.map Peer.isHealthy).getD false

/-- Attempts to connect to the next peer. -/
def attempt (n : Network) : Except SystemFault Nat :=
  match n.fault with
  | some fault => .error fault
  | none => .ok n.peers.length

/-- The next peer takes a connection. -/
def accept (n : Network) : Network :=
  { n with peers := n.peers ++ [.fresh (n.coming.head?.getD n.otherwise)], coming := n.coming.drop 1 }

/-- Carries out what an exchange asks of its connections. -/
def obey (packing : Packing) (n : Network) : Exchange.Command Nat → Network
  | .send line octets => { n with peers := n.peers.modify line (·.hear packing octets) }
  | .close line => { n with peers := n.peers.modify line fun p => { p with closed := true } }
  | _ => n

end Network

/-- A request as it went out: the connection, the octets, and whether the peer had nothing more to say. -/
structure SentRequest where
  line : Nat
  octets : Bytes
  unexpected : Bool
  deriving Repr, DecidableEq

/-- An exchange in the middle of its way, with the session and the network it changes. -/
structure Delivery where
  session : Session Nat
  network : Network
  exchange : Exchange Nat
  sent : Option SentRequest

namespace Delivery

/-- Notes what goes out. -/
def note (d : Delivery) : Exchange.Command Nat → Delivery
  | .send line octets =>
    { d with sent := some ⟨line, octets, (d.network.peers[line]?.map Peer.surprised).getD false⟩ }
  | _ => d

/-- Carries out an event and what follows from it at once. -/
def step (packing : Packing) (d : Delivery) (event : Exchange.Event Nat) : Delivery :=
  let (exchange, session, commands) := d.session.step packing d.exchange event
  let network := commands.foldl (·.obey packing) d.network
  commands.foldl note { d with session, network, exchange }

/-- Begins, with an idle connection or with a new one. -/
def begin (packing : Packing) (registry : Tls.Registry) (d : Delivery) : Delivery :=
  let d := d.step packing (.begin d.network.isHealthy)
  match d.exchange.stage with
  | .opening =>
    match d.exchange.open? registry d.network.trusted [d.network.attempt] with
    | .error failure => d.step packing (.openFailed failure)
    | .ok line => { d with network := d.network.accept }.step packing (.opened line)
  | _ => d

/-- Reads pieces until the exchange is over; what is not read stays with the peer. Without a further
piece either the peer has hung up or time runs out. -/
def readAll (packing : Packing) (d : Delivery) (line : Nat) (closed : Bool) : List Bytes → Delivery
  | [] => d.step packing (.traffic (if closed then .received [] else .readExpired))
  | piece :: rest =>
    let network := { d.network with peers := d.network.peers.modify line fun p => { p with unread := rest.flatten } }
    let d := { d with network }.step packing (.traffic (.received piece))
    match d.exchange.stage with
    | .ended _ => d
    | _ => d.readAll packing line closed rest

/-- Writes the request and reads the response. -/
def converse (packing : Packing) (d : Delivery) : Delivery :=
  match d.exchange.stage with
  | .talking entry _ =>
    let d := d.step packing (.traffic .written)
    match d.network.peers[entry.connection]? with
    | some p => d.readAll packing entry.connection p.closed (p.unread.pieces entry.bufferSize)
    | none => d
  | _ => d

end Delivery

/-- A session, the peers it can reach, and the certificates it knows. -/
structure Client where
  session : Session Nat
  network : Network
  registry : Tls.Registry

namespace Client

/-- Sends a request and waits for what becomes of it; also tells what went out last. -/
def send (packing : Packing) (c : Client) (place : Place) (request : ClientRequest) :
    Except Failure Response × Option SentRequest × Client :=
  match c.session.blockingFault? place, c.session.exchange request with
  | some failure, _ => (.error failure, none, c)
  | none, .error failure => (.error failure, none, c)
  | none, .ok exchange =>
    let d := ((⟨c.session, c.network, exchange, none⟩ : Delivery).begin packing c.registry).converse packing
    (d.exchange.result?.getD (.error .cancelled), d.sent, { c with session := d.session, network := d.network })

def withPool (c : Client) (pool : Pool Nat) : Client := { c with session := { c.session with pool } }

/-- Takes out the idle connection of an endpoint. -/
def claim (c : Client) (endpoint : Endpoint) : Option (PoolEntry Nat) × Client :=
  let change := c.session.pool.claim c.network.isHealthy endpoint
  (change.entry, c.withPool change.pool)

/-- Drops the idle connection of an endpoint; it says whether there was one. -/
def remove (c : Client) (endpoint : Endpoint) : Bool × Client :=
  (c.session.pool.contains endpoint, c.withPool (c.session.pool.remove endpoint).pool)

def clear (c : Client) : Client := c.withPool c.session.pool.clear.pool

end Client
end HttpExchange
