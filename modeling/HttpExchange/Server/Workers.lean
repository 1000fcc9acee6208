import HttpExchange.Server.Queue

/-!
Workers that share a queue. They take items and handle them until one of them takes the sign to stop;
it puts the sign back for the next one and leaves. Every interleaving is a list of actions, each of
which is atomic.
-/
namespace HttpExchange

/-- What a worker is doing. -/
inductive Worker (α : Type)
  | waiting
  | handling (item : α)
  | leaving
  | gone
  deriving Repr, DecidableEq

/-- How far the workers have been stopped. -/
inductive Closing
  | running | cleared | signalled | joined
  deriving Repr, DecidableEq

/-- Workers, their queue, and what became of the items that left it. -/
structure Workers (α : Type) where
  queue : Queue α
  workers : List (Worker α)
  closing : Closing
  handled : List α
  dropped : List α
  deriving Repr, DecidableEq

namespace Workers
variable {α : Type}

/-- An atomic step of a producer, of a worker, or of the one who stops the workers. -/
inductive Action (α : Type)
  | enqueue (item : α)
  | take (worker : Nat)
  | finish (worker : Nat)
  | leave (worker : Nat)
  | clear
  | signal
  | join
  deriving Repr, DecidableEq

/-- Workers with nothing to do, at least one. -/
def start (count : Nat) : Workers α := ⟨.empty, List.replicate (max count 1) .waiting, .running, [], []⟩

def allGone (w : Workers α) : Bool := w.workers.all fun
  | .gone => true
  | _ => false

/-- Puts a worker in the place of another. -/
def become (w : Workers α) (i : Nat) (worker : Worker α) : Workers α :=
  { w with workers := w.workers.set i worker }

/-- Carries out an action if it is possible: a worker can only take while it waits and something is
there, and stopping goes in order. -/
def step? (w : Workers α) : Action α → Option (Workers α)
  | .enqueue item => some { w with queue := w.queue.enqueue item }
  | .take i =>
    match w.workers[i]?, w.queue.dequeue? with
    | some .waiting, some (some item, queue) => some { w.become i (.handling item) with queue }
    | some .waiting, some (none, queue) => some { w.become i .leaving with queue }
    | _, _ => none
  | .finish i =>
    match w.workers[i]? with
    | some (.handling item) => some { w.become i .waiting with handled := w.handled ++ [item] }
    | _ => none
  | .leave i =>
    match w.workers[i]? with
    | some .leaving => some { w.become i .gone with queue := w.queue.push none }
    | _ => none
  | .clear =>
    if w.closing = .running then
      some { w with queue := w.queue.clear.2, closing := .cleared, dropped := w.dropped ++ w.queue.items }
    else none
  | .signal =>
    if w.closing = .cleared then some { w with queue := w.queue.push none, closing := .signalled } else none
  | .join => if w.closing = .signalled ∧ w.allGone then some { w with closing := .joined } else none

/-- Carries out actions in turn and passes over those that are not possible. -/
def run (w : Workers α) (actions : List (Action α)) : Workers α :=
  actions.foldl (fun w action => (w.step? action).getD w) w

/-- The number of workers that were not waited for yet. -/
def size (w : Workers α) : Nat := if w.closing = .joined then 0 else w.workers.length

/-- There is nobody to wait for. -/
def isEmpty (w : Workers α) : Bool := w.size = 0

def enqueueAll (w : Workers α) (items : List α) : Workers α := w.run (items.map .enqueue)

/-- The first worker handles all that waits. -/
def serveAll (w : Workers α) : Workers α :=
  w.run (List.replicate w.queue.size [.take 0, .finish 0]).flatten

/-- Drops what waits, gives the sign, and lets every worker finish and leave. Nothing happens the
second time. -/
def stop (w : Workers α) : Workers α :=
  w.run ([.clear, .signal] ++
    (List.range w.workers.length).flatMap (fun i => [.finish i, .take i, .leave i]) ++ [.join])

end Workers
end HttpExchange
