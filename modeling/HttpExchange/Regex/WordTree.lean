import HttpExchange.Regex.Automaton

/-!
Words that begin alike, as a tree of octets: any of them is taken, the ones that stand first preferred.
-/
namespace HttpExchange.Regex

/-- What can follow some octets: the end of a word, or another octet and what follows that. Where a
word ends between others, it is preferred to those after it. The last possibility stands first. -/
inductive WordTree
  | stop
  | way (octet : Nat) (behind : List WordTree)

namespace WordTree

/-- The possibilities with what follows an octet changed, among those after the last end of a word. -/
def change (octet : Nat) (f : List WordTree → List WordTree) : List WordTree → List WordTree
  | way other behind :: before =>
    if octet < other then way other behind :: change octet f before
    else if octet = other then way other (f behind) :: before
    else way octet (f []) :: way other behind :: before
  | before => way octet (f []) :: before

/-- The possibilities with a word more. A word that ends where another does and none goes on is no more. -/
def insert : List Nat → List WordTree → List WordTree
  | [], [stop] => [stop]
  | [], trees => stop :: trees
  | octet :: rest, trees => change octet (insert rest) trees

/-- The possibilities that words give. -/
def ofWords (words : List (List Nat)) : List WordTree := words.foldl (fun trees word => insert word trees) []

/-- No octet can follow. -/
def isLeaf (trees : List WordTree) : Bool := trees.all fun
  | stop => true
  | way _ _ => false

/-- The ways of a fork with one more, which takes the moves. -/
def forkMoves (ways : Array Nat) (moves : Array Move) : Making (Array Nat) :=
  match moves.toList with
  | [] => pure ways
  | [move] => do return ways.push (← Making.add (.octet move))
  | moves => do return ways.push (← Making.add (.octets moves))

/-- The ways of a fork that come before the last end of a word, and the moves after it. -/
def makeWays (target : Nat) : List WordTree → Making (Array Nat × Array Move)
  | [] => pure (#[], #[])
  | stop :: before => do
    let (ways, moves) ← makeWays target before
    return ((← forkMoves ways moves).push target, #[])
  | way octet behind :: before => do
    let (ways, moves) ← makeWays target before
    let next ← if isLeaf behind then pure target else do
      let (ways, moves) ← makeWays target behind
      Making.add (.fork false (← forkMoves ways moves))
    return (ways, moves.push ⟨octet, octet, next⟩)

/-- A piece that takes any of the words. -/
def make (words : List (List Nat)) : Making Piece := do
  let target ← Making.add (.pass 0)
  let (ways, moves) ← makeWays target (ofWords words)
  return ⟨← Making.add (.fork false (← forkMoves ways moves)), target⟩

end WordTree
end HttpExchange.Regex
