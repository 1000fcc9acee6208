import HttpExchange.Server.Connection

/-!
A connection with what surrounds it: the octets that its peer has sent and those that the peer has not
read yet, whether the peer is still there, and what the workers do with a request. It runs on until it
needs something from outside.
-/
namespace HttpExchange

/-- A connection in its surroundings. Workers may hold a request back or drop it; a peer may say goodbye
or break the connection off. -/
structure Conversation where
  connection : Connection
  inbox : Bytes
  outbox : Bytes
  hungUp : Bool
  aborted : Bool
  held : Bool
  dropping : Bool
  request : Option Request
  outcome : Option (Option Failure)
  deriving Repr, DecidableEq

namespace Conversation

def fresh : Conversation := ⟨.fresh, [], [], false, false, false, false, none, none⟩

def hear (c : Conversation) (octets : Bytes) : Conversation := { c with inbox := c.inbox ++ octets }

/-- What happens next without anybody's help, if anything does: a read takes what is there, up to a
size. -/
def next? (respond : Request → Response) (size : Nat) (c : Conversation) :
    Option (Connection.Event × Conversation) :=
  match c.connection.stage, c.request with
  | .reading, _ =>
    if c.aborted then some (.readFailed .reset, c)
    else if c.inbox ≠ [] then some (.received (c.inbox.take size), { c with inbox := c.inbox.drop size })
    else if c.hungUp then some (.received [], c)
    else none
  | .queued, some request =>
    if c.held then none
    else some (if c.dropping then .unanswered else .replied (respond request), { c with request := none })
  | .writing _, _ => some (if c.aborted then .writeFailed .brokenPipe else .written, c)
  | _, _ => none

/-- Carries out what a connection asks of its surroundings. -/
def obey (c : Conversation) : Connection.Effect → Conversation
  | .enqueue request => { c with request := some request }
  | .send octets => if c.aborted then c else { c with outbox := c.outbox ++ octets }
  | .ended failure => { c with outcome := some failure }
  | _ => c

/-- Takes in an event. -/
def take (packing : Packing) (c : Conversation) (event : Connection.Event) : Conversation :=
  let (connection, effects) := c.connection.step packing event
  effects.foldl obey { c with connection }

/-- Runs on for as many events as `fuel` allows. -/
def settleFor (packing : Packing) (respond : Request → Response) (size : Nat) : Nat → Conversation → Conversation
  | 0, c => c
  | fuel + 1, c =>
    match c.next? respond size with
    | none => c
    | some (event, c) => settleFor packing respond size fuel (c.take packing event)

/-- Runs on until it needs something from outside. Every read takes an octet at least or meets the end,
and is followed by a reply and a write at most. -/
def settle (packing : Packing) (respond : Request → Response) (size : Nat) (c : Conversation) : Conversation :=
  settleFor packing respond (max size 1) (3 * (c.inbox.length + 2)) c

/-- The peer reads all that was sent. -/
def readAll (c : Conversation) : Bytes × Conversation := (c.outbox, { c with outbox := [] })

/-- The peer reads one response, if a whole one was sent; else nothing is left of what was. -/
def readResponse (c : Conversation) (ignoreBody : Bool) : Option Response × Conversation :=
  match (Parser.freshIgnoring ignoreBody : Parser StatusLine).first? c.outbox with
  | some (response, rest) => (some response, { c with outbox := rest })
  | none => (none, { c with outbox := [] })

def isOver (c : Conversation) : Bool := c.connection.stage = .closed

end Conversation
end HttpExchange
