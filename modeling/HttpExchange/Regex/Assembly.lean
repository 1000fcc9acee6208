import HttpExchange.Regex.SetPiece
import HttpExchange.Regex.WordTree

/-!
Automata made from patterns: one that takes a text from its first octet to its last and binds groups,
and one that takes it backward.
-/
namespace HttpExchange.Regex

namespace Piece

/-- Any of some pieces, the first one preferred. -/
def choice (options : List (Making Piece)) : Making Piece := do
  match options with
  | [] => SetPiece.ofOctets []
  | [make] => make
  | make :: second :: others =>
    let a ← make
    let b ← second
    let start ← fork false
    let target ← Making.add (.pass 0)
    for a in [a, b] do
      Making.link start a.first
      Making.link a.last target
    for make in others do
      let a ← make
      Making.link start a.first
      Making.link a.last target
    return ⟨start, target⟩

/-- A piece once or not at all. -/
def optional (greedy : Bool) (make : Making Piece) : Making Piece := do
  let start ← fork (!greedy)
  let a ← make
  let target ← Making.add (.pass 0)
  Making.link start a.first
  Making.link start target
  Making.link a.last target
  return ⟨start, target⟩

/-- A piece any number of times. One that can take nothing is left after a round or skipped, so that a
round that takes nothing still binds its groups. -/
def star (greedy takes : Bool) (make : Making Piece) : Making Piece := do
  if takes then
    let start ← fork (!greedy)
    let a ← make
    Making.link start a.first
    Making.link a.last start
    return ⟨start, start⟩
  else
    let a ← make
    let again ← fork (!greedy)
    Making.link a.last again
    Making.link again a.first
    let start ← fork (!greedy)
    let target ← Making.add (.pass 0)
    Making.link start a.first
    Making.link start target
    Making.link again target
    return ⟨start, target⟩

/-- A piece that may be taken again. -/
def again (greedy : Bool) (a : Piece) : Making Piece := do
  let again ← fork (!greedy)
  Making.link a.last again
  Making.link again a.first
  return ⟨a.first, again⟩

/-- A piece at least `n + 1` times. -/
def plus (greedy : Bool) (n : Nat) (make : Making Piece) : Making Piece := do
  if n = 0 then (← make).again greedy
  else
    let before ← times make n
    let last ← make
    let again ← fork (!greedy)
    Making.link before.last last.first
    Making.link last.last again
    Making.link again last.first
    return ⟨before.first, again⟩

/-- A piece up to `n` times more, before `target`. -/
def upTo (greedy : Bool) (make : Making Piece) (target : Nat) : Nat → Piece → Making Piece
  | 0, a, d => (do
    Making.link a.last target
    return ⟨a.first, target⟩ : Making Piece) d
  | n + 1, a, d =>
    let once : Making Piece := do
      let start ← fork (!greedy)
      let b ← make
      Making.link a.last start
      Making.link start b.first
      Making.link start target
      return ⟨a.first, b.last⟩
    match once d with
    | some (a, d) => upTo greedy make target n a d
    | none => none

/-- A piece in a loop; `takes` tells that each round takes something. -/
def loop (greedy : Bool) (least : Nat) (most : Option Nat) (takes : Bool) (make : Making Piece) :
    Making Piece := do
  match least, most with
  | 0, some 1 => optional greedy make
  | 0, none => star greedy takes make
  | n + 1, none => plus greedy n make
  | least, some most =>
    let before ← times make least
    if most = least then return before
    else upTo greedy make (← Making.add (.pass 0)) (most - least) before

end Piece

namespace Pattern

/-- The octets of a text. -/
def octets? : Pattern → Option (List Nat)
  | text cs => some (cs.flatMap fun c => Octets.ofNumber c.toNat)
  | _ => none

mutual
/-- The piece that takes what a pattern matches. -/
def make (backward : Bool) : Pattern → Making Piece
  | empty => Piece.nothing
  | text cs =>
    let octets := cs.flatMap fun c => Octets.ofNumber c.toNat
    Piece.chain ((if backward then octets.reverse else octets).map fun n => Piece.octet n n)
  | set s => SetPiece.ofSet backward s
  | look k => Piece.ofState (.look k 0)
  | group index a =>
    if backward then a.make backward
    else do
      let first ← Making.add (.save (2 * index) 0)
      let inner ← a.make backward
      let last ← Making.add (.save (2 * index + 1) 0)
      Making.link first inner.first
      Making.link inner.last last
      return ⟨first, last⟩
  | loop greedy least most a => Piece.loop greedy least most (a.least?.any (0 < ·)) (a.make backward)
  | sequence parts =>
    let pieces := makeEach backward parts
    Piece.chain (if backward then pieces.reverse else pieces)
  | choice options =>
    match options.mapM octets? with
    | some words => WordTree.make (if backward then words.map List.reverse else words)
    | none => Piece.choice (makeEach backward options)
/-- The piece of each pattern. -/
def makeEach (backward : Bool) : List Pattern → List (Making Piece)
  | [] => []
  | a :: rest => a.make backward :: makeEach backward rest
end

end Pattern

/-- An automaton, with the state it starts in and the memory it counts for. -/
structure Automaton where
  states : Array State
  start : Nat
  size : Nat

namespace Automaton

/-- The piece that takes the octets before a match, as few as possible. -/
def approach : Making Piece := Piece.loop false 0 none true (SetPiece.ofOctets [(0, 0xFF)])

/-- The automaton that looks for a pattern anywhere in a text, unless the pattern says where it stands. -/
def ofPattern? (backward : Bool) (p : Pattern) : Option Automaton :=
  let isFixed := if backward then p.endsText else p.beginsText
  let make : Making Nat := do
    let before ← if isFixed then Piece.nothing else approach
    let whole ← (Pattern.group 0 p).make backward
    let accept ← Making.add .accept
    Making.link whole.last accept
    Making.link before.last whole.first
    return before.first
  (make .empty).map fun (start, d) => ⟨d.states, start, d.size⟩

end Automaton
end HttpExchange.Regex
