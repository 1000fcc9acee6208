import HttpExchange.Router
import HttpExchange.Server.Connection
import HttpExchange.Server.OneShot
import HttpExchange.Server.Workers

/-!
Requests of many connections on their way through the workers and back. Every request that is handed out leaves a
slip with a channel for its reply; the job that goes to the workers has the number of the slip. A connection that
does not wait any more lets go of its channel, so a late reply finds nobody and is thrown away.
-/
namespace HttpExchange

/-- A request that was handed out, the connection that did so, and the way back. -/
structure Slip where
  connection : Nat
  request : Request
  reply : OneShot Response
  deriving Repr, DecidableEq

/-- A request for the workers, with the number of its slip. -/
structure Job where
  slip : Nat
  request : Request
  deriving Repr, DecidableEq

/-- A connection among others, all that happened to it, and the slip it waits for. -/
structure Post where
  connection : Connection
  heard : List Connection.Event
  slip : Option Nat
  deriving Repr, DecidableEq

/-- Connections and workers, the slips in the order in which they were written, and all replies that were given. -/
structure Relay where
  workers : Workers Job
  posts : List Post
  slips : List Slip
  replies : List (Nat × Response)
  deriving Repr, DecidableEq

/-- The event comes from the workers, not from outside. -/
def Connection.Event.isReply : Connection.Event → Bool
  | replied _ | unanswered => true
  | _ => false

/-- What a connection hears from a channel. -/
def Connection.Event.ofReply : Option Response → Connection.Event
  | some response => replied response
  | none => unanswered

namespace Relay

/-- An atomic step: something happens to a connection, one receives what its channel has for it, or somebody
acts among the workers. -/
inductive Action
  | happens (connection : Nat) (event : Connection.Event)
  | receive (connection : Nat)
  | work (action : Workers.Action Job)
  deriving Repr, DecidableEq

/-- As many connections and workers as given, none of them busy. -/
def start (connections workers : Nat) : Relay :=
  ⟨.start workers, List.replicate connections ⟨.fresh, [], none⟩, [], []⟩

/-- Something becomes of the channel of a slip. -/
def onReply (slips : List Slip) (n : Nat) (change : OneShot Response → OneShot Response) : List Slip :=
  slips.modify n fun slip => { slip with reply := change slip.reply }

/-- A connection takes in an event. A request that it hands out goes to the workers; a connection that does not
wait for a reply any more lets go of its channel. -/
def hear (packing : Packing) (r : Relay) (c : Nat) (post : Post) (event : Connection.Event) : Relay :=
  let heard := post.heard ++ [event]
  match post.connection.step packing event with
  | (connection, [.enqueue request]) =>
    { r with
      workers := { r.workers with queue := r.workers.queue.enqueue ⟨r.slips.length, request⟩ }
      posts := r.posts.set c ⟨connection, heard, some r.slips.length⟩
      slips := r.slips ++ [⟨c, request, .waiting⟩] }
  | (connection, _) =>
    if connection.stage = .queued then { r with posts := r.posts.set c ⟨connection, heard, post.slip⟩ }
    else
      { r with
        posts := r.posts.set c ⟨connection, heard, none⟩
        slips := post.slip.elim r.slips fun n => onReply r.slips n .desert }

/-- What becomes of slips when somebody acts among the workers: one who finishes sends the reply, and nobody
replies to what was dropped. -/
def attend (packing : Packing) (routers : Nat → Router Service) (r : Relay) (workers : Workers Job) :
    Workers.Action Job → Relay
  | .finish i =>
    match r.workers.workers[i]? with
    | some (.handling job) =>
      let response := (routers job.slip).respond packing job.request
      { r with
        workers
        slips := onReply r.slips job.slip (·.send response)
        replies := r.replies ++ [(job.slip, response)] }
    | _ => { r with workers }
  | .clear =>
    { r with
      workers
      slips := r.workers.queue.items.foldl (fun slips job => onReply slips job.slip .abandon) r.slips }
  | _ => { r with workers }

/-- Carries out an action if it is possible. The services may answer differently from one job to the next, so
each slip has a router of its own. -/
def step? (packing : Packing) (routers : Nat → Router Service) (r : Relay) : Action → Option Relay
  | .happens c event =>
    if event.isReply then none else (r.posts[c]?).map fun post => r.hear packing c post event
  | .receive c => do
    let post ← r.posts[c]?
    let slip ← r.slips[← post.slip]?
    let reply ← slip.reply.received?
    some (r.hear packing c post (.ofReply reply))
  | .work (.enqueue _) => none
  | .work action => (r.workers.step? action).map fun workers => r.attend packing routers workers action

/-- Carries out actions in turn and passes over those that are not possible. -/
def run (packing : Packing) (routers : Nat → Router Service) (r : Relay) (actions : List Action) : Relay :=
  actions.foldl (fun r action => (r.step? packing routers action).getD r) r

end Relay
end HttpExchange
