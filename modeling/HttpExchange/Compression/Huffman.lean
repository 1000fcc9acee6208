import HttpExchange.Compression.Bits

/-!
Canonical prefix codes: given the length of each symbol's code, the codes are numbered in order of
length and then of symbol. Deflated data has alphabets of its own: lengths and distances of repetitions with their
extra bits, the order in which code lengths are sent, and the codes that need no table.
-/
namespace HttpExchange.Compression

/-! ### Prefix codes -/

/-- A code to read with: each edge is a bit, each leaf a symbol. -/
inductive CodeTree
  | empty
  | leaf (symbol : Nat)
  | node (zero one : CodeTree)

namespace CodeTree

/-- Adds a symbol at the end of a path. -/
def insert (symbol : Nat) : List Bool → CodeTree → CodeTree
  | [], _ => leaf symbol
  | b :: path, node zero one =>
    if b then node zero (insert symbol path one) else node (insert symbol path zero) one
  | b :: path, _ =>
    if b then node empty (insert symbol path empty) else node (insert symbol path empty) empty

/-- Follows bits to a symbol; a path that no code begins with is corrupt. -/
def read : CodeTree → Reader Nat
  | empty => throw .corrupt
  | leaf symbol => return symbol
  | node zero one => do if ← Reader.bit then read one else read zero

/-- Reads a symbol, which takes one bit at least. -/
def symbol : CodeTree → Reader Nat
  | empty => do
    let _ ← Reader.bit
    throw .corrupt
  | tree => tree.read

end CodeTree

/-- The `k` low bits of a number, the high bit first. -/
def highBitsOf (k n : Nat) : List Bool := (bitsOf k n).reverse

/-- The symbols of one code length, in ascending order. -/
def symbolsOfLength (lengths : List Nat) (length : Nat) : List Nat :=
  (lengths.zipIdx.filter fun (l, _) => l == length).map Prod.snd

/-- The codes of all symbols that have one: symbol, length and number. -/
def canonicalCodes (lengths : List Nat) : List (Nat × Nat × Nat) :=
  ((List.range 15).foldl (fun (codes, next) i =>
    let symbols := symbolsOfLength lengths (i + 1)
    let numbered := symbols.zipIdx.map fun (symbol, k) => (symbol, i + 1, next + k)
    (codes ++ numbered, 2 * (next + symbols.length))) (([] : List (Nat × Nat × Nat)), 0)).1

/-- What share of all paths of sixteen bits the codes take up. -/
def coverage (lengths : List Nat) : Nat :=
  lengths.foldl (fun n l => if l = 0 then n else n + Nat.pow 2 (16 - l)) 0

/-- Paths that leave a code of `length` zeros after its tenth bit or later. -/
def sideways (length : Nat) : List (List Bool) :=
  ((List.range length).filter (10 ≤ ·)).map fun k => List.replicate k false ++ [true]

/-- The code of these lengths to read with. It leaves no path out, except that a code of at most one
symbol is taken if `sparse` allows it. Where the only code has more than ten bits, a path that leaves it
after the tenth reads as symbol zero. -/
def CodeTree.ofLengths? (sparse : Bool) (lengths : List Nat) : Option CodeTree :=
  let codes := canonicalCodes lengths
  if coverage lengths = 65536 ∨ (sparse ∧ codes.length ≤ 1) then
    let tree := codes.foldl (fun tree (symbol, length, number) => tree.insert symbol (highBitsOf length number)) empty
    match codes with
    | [(_, length, _)] => some ((sideways length).foldl (fun tree path => tree.insert 0 path) tree)
    | _ => some tree
  else none

/-! ### The alphabets of deflated data -/

/-- The symbol that ends a block. -/
def endOfBlock : Nat := 256

/-- The least length of each length symbol from 257 on, and the number of its extra bits. -/
def lengthSymbols : List (Nat × Nat) :=
  [(3, 0), (4, 0), (5, 0), (6, 0), (7, 0), (8, 0), (9, 0), (10, 0), (11, 1), (13, 1), (15, 1), (17, 1),
    (19, 2), (23, 2), (27, 2), (31, 2), (35, 3), (43, 3), (51, 3), (59, 3), (67, 4), (83, 4), (99, 4),
    (115, 4), (131, 5), (163, 5), (195, 5), (227, 5), (258, 0)]

/-- The least distance of each distance symbol, and the number of its extra bits. -/
def distanceSymbols : List (Nat × Nat) :=
  [(1, 0), (2, 0), (3, 0), (4, 0), (5, 1), (7, 1), (9, 2), (13, 2), (17, 3), (25, 3), (33, 4), (49, 4),
    (65, 5), (97, 5), (129, 6), (193, 6), (257, 7), (385, 7), (513, 8), (769, 8), (1025, 9), (1537, 9),
    (2049, 10), (3073, 10), (4097, 11), (6145, 11), (8193, 12), (12289, 12), (16385, 13), (24577, 13)]

/-- The order in which the lengths of the code length code are sent. -/
def codeLengthOrder : List Nat := [16, 17, 18, 0, 8, 7, 9, 6, 10, 5, 11, 4, 12, 3, 13, 2, 14, 1, 15]

/-- The code lengths of literals and lengths in a block without tables. -/
def fixedLiteralLengths : List Nat :=
  List.replicate 144 8 ++ List.replicate 112 9 ++ List.replicate 24 7 ++ List.replicate 8 8

/-- The code lengths of distances in a block without tables. -/
def fixedDistanceLengths : List Nat := List.replicate 32 5

end HttpExchange.Compression
