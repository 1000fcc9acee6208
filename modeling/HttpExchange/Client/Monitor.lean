import HttpExchange.Client.Completion

/-!
A completion as the threads see it that share it: a flag and a value under one lock, and callers who sleep until they
are woken. Whoever sets the flag lets the lock go before he wakes the sleepers; a caller who wakes, be it for no
reason, takes the lock and looks at the flag again.
-/
namespace HttpExchange

/-- A flag that is set for good, and a value that goes with the one who takes it. -/
structure Slot (α : Type) where
  finished : Bool
  value : Option (Except Failure α)

namespace Slot
variable {α : Type}

/-- Sets the flag and leaves the value, unless the flag is set. -/
def finish (s : Slot α) (result : Except Failure α) : Bool × Slot α :=
  if s.finished then (false, s) else (true, ⟨true, some result⟩)

/-- Takes the value; who finds none counts as cancelled. -/
def take (s : Slot α) : Except Failure α × Slot α := (s.value.getD (.error .cancelled), { s with value := none })

end Slot

/-- A caller who waits: he has to look at the flag, sleeps, or has gone with a result. -/
inductive Waiter (α : Type)
  | looking
  | asleep
  | returned (result : Except Failure α)

namespace Waiter
variable {α : Type}

/-- Sleepers wake. -/
def woken : Waiter α → Waiter α
  | asleep => looking
  | waiter => waiter

/-- The result that the caller has gone with. -/
def result? : Waiter α → Option (Except Failure α)
  | returned result => some result
  | _ => none

end Waiter

/-- What threads share, the number of those who have set the flag and have yet to wake the sleepers, and all callers
who wait or have waited. -/
structure Monitor (α : Type) where
  slot : Slot α
  signals : List Signal
  notices : Nat
  waiters : List (Waiter α)

namespace Monitor
variable {α : Type}

/-- What one thread does before another one may do something; signals and callers count from 0. -/
inductive Event (α : Type)
  | finish (result : Except Failure α)
  | makeSignal
  | finishSignal (signal : Nat) (result : Except Failure α)
  | dropSignal (signal : Nat)
  | notify
  | arrive
  | look (waiter : Nat)
  | stir (waiter : Nat)

def fresh : Monitor α := ⟨⟨false, none⟩, [], 0, []⟩

/-- An attempt to finish, with the lock held; one that counts has the sleepers to wake. -/
def attempt (m : Monitor α) (result : Except Failure α) : Monitor α :=
  let (first, slot) := m.slot.finish result
  { m with slot, notices := if first then m.notices + 1 else m.notices }

/-- The attempt of a signal that has not made it yet. -/
def spend (m : Monitor α) (signal : Nat) (result : Except Failure α) : Monitor α :=
  if m.signals[signal]? = some .armed then { m.attempt result with signals := m.signals.set signal .spent } else m

/-- Carries out an event. -/
def step (m : Monitor α) : Event α → Monitor α
  | .finish result => m.attempt result
  | .makeSignal => { m with signals := m.signals ++ [.armed] }
  | .finishSignal signal result => m.spend signal result
  | .dropSignal signal => m.spend signal (.error .cancelled)
  | .notify => if m.notices = 0 then m else { m with notices := m.notices - 1, waiters := m.waiters.map .woken }
  | .arrive => { m with waiters := m.waiters ++ [.looking] }
  | .look waiter =>
    match m.waiters[waiter]? with
    | some .looking =>
      if m.slot.finished then
        { m with slot := m.slot.take.2, waiters := m.waiters.set waiter (.returned m.slot.take.1) }
      else { m with waiters := m.waiters.set waiter .asleep }
    | _ => m
  | .stir waiter => { m with waiters := m.waiters.modify waiter .woken }

def run (events : List (Event α)) : Monitor α := events.foldl step fresh

/-- What an event does to the completion as a whole. -/
def acts (m : Monitor α) : Event α → List (Rendezvous.Action α)
  | .finish result => [.finish result]
  | .makeSignal => [.makeSignal]
  | .finishSignal signal result => [.finishSignal signal result]
  | .dropSignal signal => [.dropSignal signal]
  | .look waiter =>
    match m.waiters[waiter]? with
    | some .looking => [.wait]
    | _ => []
  | .notify | .arrive | .stir _ => []

/-- The actions of a run, in the order in which the lock was held for them. -/
def history (m : Monitor α) : List (Event α) → List (Rendezvous.Action α)
  | [] => []
  | event :: rest => m.acts event ++ (m.step event).history rest

end Monitor
end HttpExchange
