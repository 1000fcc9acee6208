/-!
A channel that carries one value. What is sent to somebody who has gone is thrown away, and whoever waits learns
when nobody is left to send.
-/
namespace HttpExchange

/-- How a channel stands: both ends are there, a value is on its way, the sender has gone without a word, the
receiver has gone, or it is over. -/
inductive OneShot (α : Type)
  | waiting
  | sent (value : α)
  | abandoned
  | deserted
  | settled
  deriving Repr, DecidableEq

namespace OneShot
variable {α : Type}

/-- The sender sends its value. -/
def send (value : α) : OneShot α → OneShot α
  | waiting => sent value
  | deserted => settled
  | channel => channel

/-- The sender goes without a word. -/
def abandon : OneShot α → OneShot α
  | waiting => abandoned
  | deserted => settled
  | channel => channel

/-- The receiver goes, or is done. -/
def desert : OneShot α → OneShot α
  | waiting => deserted
  | sent _ | abandoned => settled
  | channel => channel

/-- What the receiver learns, once there is something to learn: the value, or that none will come. -/
def received? : OneShot α → Option (Option α)
  | sent value => some (some value)
  | abandoned => some none
  | _ => none

/-- Somebody waits at the channel, or a word is there for him. -/
def isAwaited : OneShot α → Bool
  | waiting | sent _ | abandoned => true
  | deserted | settled => false

@[simp] theorem abandon_abandon (channel : OneShot α) : channel.abandon.abandon = channel.abandon := by
  cases channel <;> rfl

@[simp] theorem isAwaited_send (channel : OneShot α) (value : α) :
    (channel.send value).isAwaited = channel.isAwaited := by
  cases channel <;> rfl

@[simp] theorem isAwaited_abandon (channel : OneShot α) : channel.abandon.isAwaited = channel.isAwaited := by
  cases channel <;> rfl

@[simp] theorem isAwaited_desert (channel : OneShot α) : channel.desert.isAwaited = false := by
  cases channel <;> rfl

end OneShot
end HttpExchange
