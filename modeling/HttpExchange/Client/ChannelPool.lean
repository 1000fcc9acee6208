import HttpExchange.Client.Pool
import HttpExchange.Socket

/-!
A pool of channels that are known by numbers: what the pool gives up is closed at once.
-/
namespace HttpExchange

/-- A pool, and the channel behind each number. -/
structure ChannelPool where
  pool : Pool Nat
  channels : List (Nat × Channel)
  deriving Repr, DecidableEq

namespace ChannelPool

def empty : ChannelPool := ⟨.empty, []⟩

def channel (p : ChannelPool) (id : Nat) : Channel := (p.channels.lookup id).getD (.unconnected false)

/-- Puts a channel behind a number. -/
def setChannel (p : ChannelPool) (id : Nat) (channel : Channel) : ChannelPool :=
  { p with channels := (id, channel) :: p.channels.filter (·.1 != id) }

def close (p : ChannelPool) (id : Nat) : ChannelPool :=
  let channel := p.channel id
  p.setChannel id (channel.moved channel.socket.close.2)

/-- The pool after a change, the channels closed that it gave up. -/
def after (p : ChannelPool) (change : Pool.Change Nat) : ChannelPool :=
  change.closing.foldl close { p with pool := change.pool }

/-- Puts a new channel into the pool. -/
def put (p : ChannelPool) (endpoint : Endpoint) (channel : Channel) (entry : PoolEntry Nat) : ChannelPool :=
  let p := p.setChannel entry.connection channel
  p.after (p.pool.put endpoint entry)

/-- Takes out the idle connection of an endpoint. -/
def claim (p : ChannelPool) (endpoint : Endpoint) : Option (PoolEntry Nat) × ChannelPool :=
  let change := p.pool.claim (fun id => !(p.channel id).socket.peerClosed) endpoint
  (change.entry, p.after change)

/-- Closes the idle connection of an endpoint; it says whether there was one. -/
def remove (p : ChannelPool) (endpoint : Endpoint) : Bool × ChannelPool :=
  (p.pool.contains endpoint, p.after (p.pool.remove endpoint))

def clear (p : ChannelPool) : ChannelPool := p.after p.pool.clear

/-- Something happens at the far end of a channel. -/
def onFar (p : ChannelPool) (id : Nat) (act : Channel → Option Channel) : ChannelPool :=
  p.setChannel id ((act (p.channel id)).getD (p.channel id))

end ChannelPool
end HttpExchange
