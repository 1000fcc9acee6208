import HttpExchange.Bytes

/-!
Code lengths for symbols that occur with given frequencies: those of an optimal code, made shorter
where they pass a limit.
-/
namespace HttpExchange.Compression.OptimalCode

/-- A code by its branches, of which only the shape matters. -/
inductive Shape
  | leaf
  | fork (zero one : Shape)

def Shape.depths (depth : Nat) : Shape → List Nat
  | leaf => [depth]
  | fork zero one => zero.depths (depth + 1) ++ one.depths (depth + 1)

/-- A shape and how often its symbols occur. -/
structure Weighed where
  weight : Nat
  shape : Shape

/-- The lighter one of the first of two lists, and what is left of them. A leaf goes before a fork of
the same weight. -/
def lightest? : List Weighed → List Weighed → Option (Weighed × List Weighed × List Weighed)
  | [], [] => none
  | leaf :: leaves, [] => some (leaf, leaves, [])
  | [], fork :: forks => some (fork, [], forks)
  | leaf :: leaves, fork :: forks =>
    if fork.weight < leaf.weight then some (fork, leaf :: leaves, forks) else some (leaf, leaves, fork :: forks)

/-- Joins the two lightest shapes, at most `fuel` times, until one is left. Leaves and forks are in order
of weight, and each new fork is the heaviest one. -/
def joined : Nat → List Weighed → List Weighed → Option Shape
  | 0, leaves, forks => (lightest? leaves forks).map (·.1.shape)
  | fuel + 1, leaves, forks => do
    let (a, leaves, forks) ← lightest? leaves forks
    match lightest? leaves forks with
    | none => return a.shape
    | some (b, leaves, forks) => joined fuel leaves (forks ++ [⟨a.weight + b.weight, .fork a.shape b.shape⟩])

/-- How many leaves there are at each depth from one to the limit, which is that of all deeper ones too. -/
def histogram (limit : Nat) (depths : List Nat) : List Nat :=
  (List.range limit).map fun i => (depths.filter fun depth => min depth limit = i + 1).length

/-- What part of all paths of `limit` bits the codes of a histogram take. -/
def taken (limit : Nat) (histogram : List Nat) : Nat :=
  histogram.zipIdx.foldl (fun sum (n, i) => sum + n * Nat.pow 2 (limit - 1 - i)) 0

/-- Puts one more leaf under the deepest leaf that is not among the deepest of all; the longest codes
stand first. -/
def deepen : List Nat → List Nat
  | [] => []
  | longer :: [] => [longer]
  | longer :: 0 :: rest => longer :: deepen (0 :: rest)
  | longer :: (n + 1) :: rest => (longer + 2) :: n :: rest

/-- Moves one leaf of the greatest depth under another leaf, `k` times; the longest codes stand first. -/
def relieve : Nat → List Nat → List Nat
  | k + 1, longest :: rest => relieve k (deepen ((longest - 1) :: rest))
  | _, histogram => histogram

/-- A histogram within the limit whose codes take no more than all paths. -/
def limited (limit : Nat) (depths : List Nat) : List Nat :=
  let counts := histogram limit depths
  if depths.length ≤ 1 then counts
  else (relieve (taken limit counts - Nat.pow 2 limit) counts.reverse).reverse

/-- The code length of each symbol, given how often it occurs; zero if it does not. The more frequent
symbols get the shorter codes, and of two with the same frequency the later one. -/
def lengths (limit : Nat) (counts : Array Nat) : List Nat :=
  let present := (counts.toList.zipIdx.filter fun (n, _) => n ≠ 0).mergeSort fun a b => a.1 ≤ b.1
  match joined present.length (present.map fun (n, _) => ⟨n, .leaf⟩) [] with
  | none => .replicate counts.size 0
  | some shape =>
    let depths := (shape.depths 0).map (max 1)
    let found := (limited limit depths).zipIdx.flatMap fun (n, i) => List.replicate n (i + 1)
    ((present.reverse.zip found).foldl (fun lengths ((_, symbol), length) => lengths.setIfInBounds symbol length)
      (Array.replicate counts.size 0)).toList

end HttpExchange.Compression.OptimalCode
