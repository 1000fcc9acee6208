import HttpExchange.Regex.Automaton
import Std.Data.HashMap

/-!
Pieces of automata that take one character of a set. A range of characters is taken as ranges of the octets that
write them. What is alike in the octets of several characters is built once, as far as a table of the latest states
remembers it.
-/
namespace HttpExchange.Regex.Octets

/-- The characters from the first number to the last, or the octets. -/
abbrev Span := Nat × Nat

/-- The spans below and above the surrogates, which are no characters. -/
def withoutSurrogates (s : Span) : List Span :=
  [(s.1, min s.2 0xD7FF), (max s.1 0xE000, s.2)].filter fun s => s.1 ≤ s.2

/-- The parts up to a limit and after it. -/
def cut (limit : Nat) (s : Span) : List Span :=
  if s.1 ≤ limit ∧ limit < s.2 then [(s.1, limit), (limit + 1, s.2)] else [s]

/-- The parts of which each lies in one block of `size` numbers, or is made of whole blocks. -/
def align (size : Nat) (s : Span) : List Span :=
  let (first, last) := s
  let (before, first) :=
    if first / size ≠ last / size ∧ first % size ≠ 0 then
      ([(first, (first / size + 1) * size - 1)], (first / size + 1) * size)
    else ([], first)
  if first / size ≠ last / size ∧ last % size ≠ size - 1 then
    before ++ [(first, last / size * size - 1), (last / size * size, last)]
  else before ++ [(first, last)]

/-- Parts beyond ASCII, aligned for the last octets to run freely. -/
def alignAll (s : Span) : List Span :=
  if s.2 < 0x80 then [s]
  else ((align 0x40 s).flatMap (align 0x1000)).flatMap (align 0x40000)

/-- The octets of a character by its number, whatever the number is. -/
def ofNumber (n : Nat) : List Nat :=
  if n < 0x80 then [n]
  else if n < 0x800 then [0xC0 + n / 0x40, 0x80 + n % 0x40]
  else if n < 0x10000 then [0xE0 + n / 0x1000, 0x80 + n / 0x40 % 0x40, 0x80 + n % 0x40]
  else [0xF0 + n / 0x40000, 0x80 + n / 0x1000 % 0x40, 0x80 + n / 0x40 % 0x40, 0x80 + n % 0x40]

/-- The sequences of octet spans that write the characters of a span, in ascending order. -/
def sequences (s : Span) : List (List Span) :=
  let parts := ((withoutSurrogates s).flatMap (cut 0x7F)).flatMap (cut 0x7FF)
  ((parts.flatMap (cut 0xFFFF)).flatMap alignAll).map fun s => (ofNumber s.1).zip (ofNumber s.2)

end HttpExchange.Regex.Octets

namespace HttpExchange.Regex

/-- States by what they were made from. Each place of the table remembers the latest state only. -/
structure Memo where
  places : Nat
  table : Std.HashMap Nat (List Nat × Nat)

namespace Memo

def empty (places : Nat) : Memo := ⟨places, ∅⟩

/-- Mixes a number into a hash. -/
def mix (hash : UInt64) (n : Nat) : UInt64 := (hash ^^^ .ofNat n) * 1099511628211

/-- The place of a key. -/
def place (m : Memo) (key : List Nat) : Nat := (key.foldl mix 14695981039346656037).toNat % m.places

def lookUp? (m : Memo) (key : List Nat) : Option Nat :=
  m.table[m.place key]?.bind fun (known, state) => if known = key then some state else none

def remember (m : Memo) (key : List Nat) (state : Nat) : Memo :=
  { m with table := m.table.insert (m.place key) (key, state) }

/-- The state that is remembered for a key, or else the one that is made for it. -/
def recallOrMake (key : List Nat) (make : Making Nat) : StateT Memo Making Nat := fun m =>
  match m.lookUp? key with
  | some state => pure (state, m)
  | none => do
    let state ← make
    return (state, m.remember key state)

end Memo

namespace SetPiece

/-- A state in the making: its moves, the last one first, and the octets whose move is still open. -/
structure OpenState where
  moves : List Move
  pending : Option Octets.Span

/-- The moves of a state once the open one leads to `next`. -/
def OpenState.closed (s : OpenState) (next : Nat) : List Move :=
  match s.pending with
  | some (first, last) => ⟨first, last, next⟩ :: s.moves
  | none => s.moves

/-- A state of moves, given the last one first. -/
def ofMoves (moves : List Move) : StateT Memo Making Nat :=
  let moves := moves.reverse
  Memo.recallOrMake (moves.flatMap fun m => [m.first, m.last, m.next]) (Making.add (.octets moves))

/-- Closes states that stand one behind the other, the last of them before `target`; gives the first. -/
def close (target : Nat) : List OpenState → StateT Memo Making Nat
  | [] => pure target
  | s :: behind => do ofMoves (s.closed (← close target behind))

/-- Adds a sequence of octets, greater than all before it, to the states that the last one left open. -/
def insert (target : Nat) : List OpenState → List Octets.Span → StateT Memo Making (List OpenState)
  | s :: behind, span :: rest => do
    if s.pending = some span then return s :: (← insert target behind rest)
    else
      let next ← close target behind
      return ⟨s.closed next, some span⟩ :: rest.map fun span => ⟨[], some span⟩
  | [], rest => return rest.map fun span => ⟨[], some span⟩
  | states, [] => return states

/-- A piece that takes an octet of some spans. -/
def ofOctets (spans : List Octets.Span) : Making Piece := do
  let target ← Making.add (.pass 0)
  let first ← Making.add (.octets (spans.map fun s => ⟨s.1, s.2, target⟩))
  return ⟨first, target⟩

/-- A piece that takes the octets of a character from first to last. -/
def forward (s : CharSet) : Making Piece := do
  let target ← Making.add (.pass 0)
  let all : StateT Memo Making Nat := do
    close target (← (s.toList.flatMap Octets.sequences).foldlM (insert target) [⟨[], none⟩])
  let (first, _) ← all.run (.empty 10000)
  return ⟨first, target⟩

/-- The first of states that take octets from the last one back, before `target`. -/
def back (target : Nat) (spans : List Octets.Span) : StateT Memo Making Nat :=
  spans.foldlM (fun target (first, last) =>
    Memo.recallOrMake [target, first, last] (Making.add (.octet ⟨first, last, target⟩))) target

/-- A piece that takes the octets of a character from last to first. -/
def backward (s : CharSet) : Making Piece := do
  let fork ← Making.add (.fork false #[])
  let target ← Making.add (.pass 0)
  let all : StateT Memo Making Unit := (s.toList.flatMap Octets.sequences).forM fun spans => do
    (Making.link fork (← back target spans) : Making Unit)
  let _ ← all.run (.empty 1000)
  return ⟨fork, target⟩

/-- A piece that takes a character of a set, by its octets from last to first or from first to last. -/
def ofSet (isBackward : Bool) (s : CharSet) : Making Piece :=
  if s.toList.all fun run => run.2 < 0x80 then ofOctets s.toList
  else if isBackward then backward s
  else forward s

end SetPiece
end HttpExchange.Regex
