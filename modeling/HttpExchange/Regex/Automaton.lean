import HttpExchange.Regex.Pattern

/-!
Automata that take one octet after the other, built state by state within a limit of memory.
-/
namespace HttpExchange.Regex

/-- A way on by the octets of a span. -/
structure Move where
  first : Nat
  last : Nat
  next : Nat
  deriving Repr, DecidableEq

/-- The octet is of the move's span. -/
def Move.takes (m : Move) (octet : Nat) : Bool := m.first ≤ octet && octet ≤ m.last

/-- A state: what is taken or asked before the next one. A fork prefers the first of its ways, or the
last. -/
inductive State
  | pass (next : Nat)
  | octet (move : Move)
  | octets (moves : List Move)
  | look (k : Look) (next : Nat)
  | fork (preferLast : Bool) (nexts : Array Nat)
  | save (slot : Nat) (next : Nat)
  | accept
  deriving Repr

namespace State

/-- The memory that a state counts for. -/
def size : State → Nat
  | octets moves => 32 + 8 * moves.length
  | fork _ nexts => 32 + 4 * nexts.size
  | _ => 32

def isFork : State → Bool
  | fork _ _ => true
  | _ => false

/-- The state with its way on set; a fork gets one way more. -/
def linked (next : Nat) : State → State
  | pass _ => pass next
  | octet move => octet { move with next }
  | octets moves => octets moves
  | look k _ => look k next
  | fork preferLast nexts => fork preferLast (nexts.push next)
  | save slot _ => save slot next
  | accept => accept

end State

/-- An automaton in the making, and the memory it counts for. -/
structure Draft where
  states : Array State
  size : Nat

namespace Draft

/-- The most memory that an automaton may take. -/
def limit : Nat := 10485760

def empty : Draft := ⟨#[], 0⟩

end Draft

/-- A step of the making, which fails where the memory does not suffice. -/
abbrev Making := StateT Draft Option

namespace Making

/-- Adds a state and gives its number. -/
def add (s : State) : Making Nat := fun d =>
  let size := d.size + s.size
  if Draft.limit < size then none else some (d.states.size, ⟨d.states.push s, size⟩)

/-- Leads from one state on to another. -/
def link (source target : Nat) : Making Unit := fun d =>
  let size := if d.states[source]?.any State.isFork then d.size + 4 else d.size
  if Draft.limit < size then none else some ((), ⟨d.states.modify source (State.linked target), size⟩)

end Making

/-- A piece of an automaton, from its first state to its last. -/
structure Piece where
  first : Nat
  last : Nat

namespace Piece

/-- The piece of one state. -/
def ofState (s : State) : Making Piece := do
  let n ← Making.add s
  return ⟨n, n⟩

/-- A piece that takes nothing. -/
def nothing : Making Piece := ofState (.pass 0)

/-- A piece that takes one octet of a span. -/
def octet (first last : Nat) : Making Piece := ofState (.octet ⟨first, last, 0⟩)

def followedBy (a b : Piece) : Making Piece := do
  Making.link a.last b.first
  return ⟨a.first, b.last⟩

/-- A piece with others made behind it. -/
def continued (a : Piece) (others : List (Making Piece)) : Making Piece :=
  others.foldlM (fun a make => do a.followedBy (← make)) a

/-- Pieces one after the other. -/
def chain (pieces : List (Making Piece)) : Making Piece := do
  match pieces with
  | [] => nothing
  | make :: others => do (← make).continued others

/-- A piece with others of one making behind it. -/
def continuedTimes (make : Making Piece) : Nat → Piece → Making Piece
  | 0, a, d => some (a, d)
  | n + 1, a, d => match (do a.followedBy (← make) : Making Piece) d with
    | some (a, d) => continuedTimes make n a d
    | none => none

/-- Pieces of one making, one after the other. -/
def times (make : Making Piece) : Nat → Making Piece
  | 0 => nothing
  | n + 1 => do continuedTimes make n (← make)

/-- A fork of no ways yet. -/
def fork (preferLast : Bool) : Making Nat := Making.add (.fork preferLast #[])

end Piece
end HttpExchange.Regex
