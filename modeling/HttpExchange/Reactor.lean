/-!
The thread that drives all input and output of a server or a client. Stopping it cancels the tasks
that are still pending; a task of its own must not block on it.
-/
namespace HttpExchange

/-- How a task stands. -/
inductive Task
  | pending | finished | cancelled
  deriving Repr, DecidableEq

/-- Where code runs: on the thread of the reactor or elsewhere. -/
inductive Place
  | onReactor | elsewhere
  deriving Repr, DecidableEq

/-- A named thread with its tasks, in the order in which they were given to it. -/
structure Reactor where
  name : String
  running : Bool
  tasks : List Task
  deriving Repr, DecidableEq

namespace Reactor

/-- A thread without tasks. -/
def start (name : String) : Reactor := ⟨name, true, []⟩

def spawn (r : Reactor) : Reactor := { r with tasks := r.tasks ++ [.pending] }

/-- A task runs to its end. -/
def complete (r : Reactor) (task : Nat) : Reactor :=
  if r.running ∧ r.tasks[task]? = some .pending then { r with tasks := r.tasks.set task .finished } else r

/-- A pending task is cancelled, one that has ended stays as it is. -/
def cancel : Task → Task
  | .pending => .cancelled
  | ended => ended

/-- Ends the thread and cancels its pending tasks. Stopping again changes nothing. -/
def stop (r : Reactor) : Reactor := { r with running := false, tasks := r.tasks.map cancel }

def isCurrent (r : Reactor) (place : Place) : Bool := r.running && place == .onReactor

def isOver (r : Reactor) (task : Nat) : Bool := match r.tasks[task]? with
  | some t => t != .pending
  | none => false

end Reactor
end HttpExchange
