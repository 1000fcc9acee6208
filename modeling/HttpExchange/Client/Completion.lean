import HttpExchange.Failure

/-!
A result that one side leaves and another waits for. The first attempt to finish counts. A signal
stands for the duty to finish: it makes one attempt in its life, at the latest when it is dropped.
-/
namespace HttpExchange

/-- The place of one result. -/
inductive Completion (α : Type)
  | pending
  | finished (result : Except Failure α)
  | collected

namespace Completion
variable {α : Type}

/-- An attempt to finish; it says whether it counted. -/
def finish (c : Completion α) (result : Except Failure α) : Bool × Completion α :=
  match c with
  | pending => (true, finished result)
  | later => (false, later)

/-- Some attempt was made. -/
def isFinished : Completion α → Bool
  | pending => false
  | _ => true

/-- Takes the result; whoever comes later finds the request cancelled. A wait without a result goes on. -/
def wait? : Completion α → Option (Except Failure α × Completion α)
  | pending => none
  | finished result => some (result, collected)
  | collected => some (.error .cancelled, collected)

end Completion

/-- A signal before and after its attempt. -/
inductive Signal
  | armed | spent
  deriving Repr, DecidableEq

/-- A completion and all signals that were made for it. -/
structure Rendezvous (α : Type) where
  completion : Completion α
  signals : List Signal

namespace Rendezvous
variable {α : Type}

/-- What someone does with a completion or a signal; signals count from 0. -/
inductive Action (α : Type)
  | finish (result : Except Failure α)
  | makeSignal
  | finishSignal (signal : Nat) (result : Except Failure α)
  | dropSignal (signal : Nat)
  | wait

/-- What the one who acts is told. -/
inductive Answer (α : Type)
  | done
  | counted (first : Bool)
  | result (result : Except Failure α)
  | blocked

def fresh : Rendezvous α := ⟨.pending, []⟩

/-- The attempt of a signal that has not made it yet. -/
def attempt (r : Rendezvous α) (signal : Nat) (result : Except Failure α) : Rendezvous α :=
  if r.signals[signal]? = some .armed then
    ⟨(r.completion.finish result).2, r.signals.set signal .spent⟩
  else r

/-- Carries out an action. -/
def step (r : Rendezvous α) : Action α → Answer α × Rendezvous α
  | .finish result =>
    let (first, completion) := r.completion.finish result
    (.counted first, { r with completion })
  | .makeSignal => (.done, { r with signals := r.signals ++ [.armed] })
  | .finishSignal signal result => (.done, r.attempt signal result)
  | .dropSignal signal => (.done, r.attempt signal (.error .cancelled))
  | .wait =>
    match r.completion.wait? with
    | none => (.blocked, r)
    | some (result, completion) => (.result result, { r with completion })

end Rendezvous
end HttpExchange
