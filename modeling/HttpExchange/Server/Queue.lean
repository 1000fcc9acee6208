/-!
The line in which requests wait for workers: first come, first served. The sign to stop stands in the
same line, so what came before it is taken before it.
-/
namespace HttpExchange

/-- Entries in the order of their arrival; `none` is the sign to stop. -/
structure Queue (α : Type) where
  entries : List (Option α)
  deriving Repr, DecidableEq

namespace Queue
variable {α : Type}

def empty : Queue α := ⟨[]⟩

/-- Puts an entry at the end. -/
def push (q : Queue α) (entry : Option α) : Queue α := ⟨q.entries ++ [entry]⟩

/-- Puts an item at the end. -/
def enqueue (q : Queue α) (item : α) : Queue α := q.push (some item)

/-- Takes the first entry, if there is one. -/
def dequeue? (q : Queue α) : Option (Option α × Queue α) :=
  match q.entries with
  | [] => none
  | entry :: rest => some (entry, ⟨rest⟩)

def items (q : Queue α) : List α := q.entries.filterMap id

/-- The number of signs to stop. -/
def signs (q : Queue α) : Nat := q.entries.countP Option.isNone

/-- Drops every entry; the number says how many of them were items. -/
def clear (q : Queue α) : Nat × Queue α := (q.items.length, empty)

def size (q : Queue α) : Nat := q.entries.length

def isEmpty (q : Queue α) : Bool := q.entries.isEmpty

@[simp] theorem items_empty : (empty : Queue α).items = [] := rfl

@[simp] theorem items_enqueue (q : Queue α) (item : α) : (q.enqueue item).items = q.items ++ [item] := by
  simp [items, enqueue, push]

@[simp] theorem items_push_none (q : Queue α) : (q.push none).items = q.items := by
  simp [items, push]

@[simp] theorem signs_empty : (empty : Queue α).signs = 0 := rfl

@[simp] theorem signs_enqueue (q : Queue α) (item : α) : (q.enqueue item).signs = q.signs := by
  simp [signs, enqueue, push]

@[simp] theorem signs_push_none (q : Queue α) : (q.push none).signs = q.signs + 1 := by
  simp [signs, push]

theorem entries_of_dequeue? {q rest : Queue α} {entry : Option α} (taken : q.dequeue? = some (entry, rest)) :
    q.entries = entry :: rest.entries := by
  unfold dequeue? at taken
  split at taken
  · cases taken
  · rename_i first behind entries
    cases taken
    exact entries

theorem items_of_dequeue? {q rest : Queue α} {entry : Option α} (taken : q.dequeue? = some (entry, rest)) :
    q.items = entry.toList ++ rest.items := by
  rw [items, entries_of_dequeue? taken]
  cases entry <;> rfl

theorem signs_of_dequeue? {q rest : Queue α} {entry : Option α} (taken : q.dequeue? = some (entry, rest)) :
    q.signs = rest.signs + if entry.isNone then 1 else 0 := by
  rw [signs, entries_of_dequeue? taken, List.countP_cons]
  rfl

theorem dequeue?_isSome (q : Queue α) : q.dequeue?.isSome = !q.isEmpty := by
  unfold dequeue? isEmpty
  cases q.entries <;> rfl

theorem isEmpty_of_signs_pos {q : Queue α} (positive : 0 < q.signs) : q.isEmpty = false := by
  obtain ⟨entry, member, -⟩ := List.countP_pos_iff.mp positive
  rw [isEmpty, List.isEmpty_eq_false_iff]
  exact List.ne_nil_of_mem member

end Queue
end HttpExchange
