import HttpExchange.Failure
import HttpExchange.Url.Host

/-!
Sockets, plain and secure, with the same operations: connect, write, read, say goodbye, release. A
socket without a stream is closed, and whoever uses it is told so. A secure socket asks for a server by a name of
labels or by an address. The far end of a stream goes on to exist after the socket has let go of it.
-/
namespace HttpExchange.Tls.ServerName
open Text (splitWhere)

/-- Letters, digits, the hyphen and the underscore. -/
def isLabelChar (c : Char) : Bool := c.isAlphanum || c == '-' || c == '_'

/-- A label has 1 to 63 characters and no hyphen at its ends. -/
def isLabel (cs : List Char) : Bool :=
  !cs.isEmpty && cs.length ≤ 63 && cs.all isLabelChar && cs.head? != some '-' && cs.getLast? != some '-'

/-- The labels of a name; a dot may stand at its end. -/
def labels (cs : List Char) : List (List Char) :=
  let parts := splitWhere (· == '.') cs
  if parts.length > 1 ∧ parts.getLast? = some [] then parts.dropLast else parts

/-- A name has up to 253 characters, and its last label is not a number. -/
def isName (cs : List Char) : Bool :=
  cs.length ≤ 253 && (labels cs).all isLabel && ((labels cs).getLast?.getD []).any (!·.isDigit)

/-- An address of four octets. -/
def isAddress4 (cs : List Char) : Bool :=
  let parts := splitWhere (· == '.') cs
  parts.length == 4 && parts.all fun part => (Host.octet? part).isSome

/-- A host that a server can be asked for. -/
def isValid (host : String) : Bool :=
  isName host.toList || isAddress4 host.toList || (Host.address6? host.toList).isSome

end HttpExchange.Tls.ServerName

namespace HttpExchange

/-- A connection as one end sees it: octets that have arrived and are not read yet, octets that were
written, and which of the two ends has said goodbye. -/
structure Stream where
  arrived : Bytes
  written : Bytes
  peerEnded : Bool
  ended : Bool
  deriving Repr, DecidableEq

/-- A plain or secure socket. -/
structure Socket where
  secure : Bool
  stream : Option Stream
  deriving Repr, DecidableEq

/-- The first address that accepts gets the connection; if none does, the last refusal is the reason. -/
def firstReached {κ : Type} (host : String) (attempts : List (Except SystemFault κ)) : Except Failure κ :=
  go .noEndpoints attempts
where
  /-- The attempts that are left, after one that failed as given. -/
  go (last : SystemFault) : List (Except SystemFault κ) → Except Failure κ
    | [] => .error (.endpointConnect host last)
    | .ok connection :: _ => .ok connection
    | .error fault :: rest => go fault rest

/-- Connects as `firstReached` does; a secure connection asks for the server by a name that must be one. -/
def reach {κ : Type} (secure : Bool) (host : String) (attempts : List (Except SystemFault κ)) : Except Failure κ :=
  if secure ∧ !Tls.ServerName.isValid host then .error (.tls (.invalidServerName host))
  else firstReached host attempts

namespace Stream

def fresh : Stream := ⟨[], [], false, false⟩

/-- Octets arrive, unless the other end has said goodbye. -/
def arrive (s : Stream) (octets : Bytes) : Stream :=
  if s.peerEnded then s else { s with arrived := s.arrived ++ octets }

/-- Nothing is to be read and something may still come. -/
def isQuiet (s : Stream) : Bool := s.arrived.isEmpty && !s.peerEnded

/-- The end of what the other end sends is reached. -/
def isExhausted (s : Stream) : Bool := s.arrived.isEmpty && s.peerEnded

end Stream

namespace Socket

def unconnected (secure : Bool) : Socket := ⟨secure, none⟩

/-- Connects to the first address that accepts; a failure leaves the socket as it is. -/
def connect (s : Socket) (host : String) (attempts : List (Except SystemFault Stream)) : Except Failure Socket :=
  (reach s.secure host attempts).map fun stream => { s with stream := some stream }

/-- Writes all of the buffers in turn; the number is that of the octets. -/
def write (s : Socket) (buffers : List Bytes) : Except Failure (Nat × Socket) :=
  match s.stream with
  | none => .error (.socketWrite .socketClosed)
  | some stream =>
    if stream.ended ∧ buffers.flatten ≠ [] then .error (.socketWrite .brokenPipe)
    else .ok (buffers.flatten.length, { s with stream := some { stream with written := stream.written ++ buffers.flatten } })

/-- Reads what has arrived, up to a size; nothing at the end of the stream. `none` if the reader has to
wait. -/
def read (s : Socket) (size : Nat) : Except Failure (Option (Bytes × Socket)) :=
  match s.stream with
  | none => .error (.socketRead .socketClosed)
  | some stream =>
    if stream.isQuiet ∧ size ≠ 0 then .ok none
    else .ok (some (stream.arrived.take size,
      { s with stream := some { stream with arrived := stream.arrived.drop size } }))

/-- Says goodbye; it says whether there was anybody to say it to. -/
def shutdown (s : Socket) : Bool × Socket :=
  (s.stream.isSome, { s with stream := s.stream.map fun stream => { stream with ended := true } })

/-- Releases the stream; it says whether there was one. -/
def close (s : Socket) : Bool × Socket := (s.stream.isSome, { s with stream := none })

def isOpen (s : Socket) : Bool := s.stream.isSome

/-- An idle socket that can carry no further request: it is released, or the other end has said
goodbye, or, on a plain socket, has sent what nobody asked for. -/
def peerClosed (s : Socket) : Bool :=
  match s.stream with
  | none => true
  | some stream => if s.secure then stream.isExhausted else !stream.isQuiet

end Socket

/-- A socket, the stream as the far end sees it, and how much of what was written the far end has read. -/
structure Channel where
  socket : Socket
  far : Option Stream
  farRead : Nat
  deriving Repr, DecidableEq

namespace Channel

def unconnected (secure : Bool) : Channel := ⟨.unconnected secure, none, 0⟩

/-- A plain socket that is connected. -/
def connected : Channel := ⟨⟨false, some .fresh⟩, some .fresh, 0⟩

/-- The socket has changed; the far end sees the change, and the end of the stream once it is released. -/
def moved (c : Channel) (socket : Socket) : Channel :=
  { c with
    socket
    far := if socket.isOpen then socket.stream
      else c.far.map fun far => { far with ended := far.ended || c.socket.isOpen } }

/-- Connects the socket to a new far end. -/
def connect (c : Channel) (host : String) (attempts : List (Except SystemFault Stream)) : Except Failure Channel :=
  (c.socket.connect host attempts).map fun socket => ⟨socket, socket.stream, 0⟩

/-- Something happens at the far end, if there is one. -/
def farActs? (c : Channel) (change : Stream → Stream) : Option Channel :=
  c.far.map fun far =>
    { c with far := some (change far), socket := { c.socket with stream := c.socket.stream.map change } }

/-- The far end sends. -/
def farSend? (c : Channel) (octets : Bytes) : Option Channel := c.farActs? (·.arrive octets)

/-- The far end says goodbye. -/
def farEnd? (c : Channel) : Option Channel := c.farActs? fun far => { far with peerEnded := true }

/-- The far end reads all that has come since, and learns whether more may come. -/
def farRead? (c : Channel) : Option (Bytes × Bool × Channel) :=
  c.far.map fun far => (far.written.drop c.farRead, far.ended, { c with farRead := far.written.length })

end Channel

end HttpExchange
