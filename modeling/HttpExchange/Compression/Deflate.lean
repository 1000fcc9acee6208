import HttpExchange.Compression.Huffman
import HttpExchange.Compression.OptimalCode
import HttpExchange.Compression.Repetition

/-!
Deflated data written: each block in the fixed codes if it is short and in codes made for it
otherwise, or its octets as they are if that takes no more room.
-/
namespace HttpExchange.Compression.Deflate

/-- The code of each symbol as it is written, its first bit lowest. -/
def codeTable (lengths : List Nat) : Array Field :=
  (canonicalCodes lengths).foldl (fun table (symbol, length, number) =>
    table.setIfInBounds symbol ⟨length, ofBits (highBitsOf length number)⟩) (.replicate lengths.length ⟨0, 0⟩)

/-- The code of a symbol; a symbol without one is not written. -/
def codeOf (table : Array Field) (symbol : Nat) : Field := (table[symbol]?).getD ⟨0, 0⟩

/-- The last entry of an alphabet that is not above `n`, and what is left of `n` in its extra bits. -/
def entryFor (alphabet : List (Nat × Nat)) (n : Nat) : Nat × Field :=
  alphabet.zipIdx.foldl (fun found ((least, extra), i) => if least ≤ n then (i, ⟨extra, n - least⟩) else found)
    (0, ⟨0, 0⟩)

/-- The symbol of a length with its extra bits. -/
def lengthEntry (length : Nat) : Nat × Field :=
  let (i, extra) := entryFor lengthSymbols length
  (257 + i, extra)

/-- The symbol of a distance with its extra bits. -/
def distanceEntry (distance : Nat) : Nat × Field := entryFor distanceSymbols distance

/-- A token in two codes. -/
def tokenFields (literals distances : Array Field) : Token → List Field
  | .literal octet => [codeOf literals octet.toNat]
  | .copy length distance =>
    let (l, lExtra) := lengthEntry length
    let (d, dExtra) := distanceEntry distance
    [codeOf literals l, lExtra, codeOf distances d, dExtra]

/-- Tokens and the end of their block in the codes of these lengths. -/
def coded (literalLengths distanceLengths : List Nat) (tokens : List Token) : List Field :=
  let literals := codeTable literalLengths
  let distances := codeTable distanceLengths
  tokens.flatMap (tokenFields literals distances) ++ [codeOf literals endOfBlock]

/-- How often each literal or length symbol occurs; the block ends once. -/
def literalCounts (tokens : List Token) : Array Nat :=
  tokens.foldl (fun counts token =>
    match token with
    | .literal octet => counts.modify octet.toNat (· + 1)
    | .copy length _ => counts.modify (lengthEntry length).1 (· + 1))
    ((Array.replicate 286 0).setIfInBounds endOfBlock 1)

/-- How often each distance symbol occurs. -/
def distanceCounts (tokens : List Token) : Array Nat :=
  tokens.foldl (fun counts token =>
    match token with
    | .literal _ => counts
    | .copy _ distance => counts.modify (distanceEntry distance).1 (· + 1)) (.replicate 30 0)

/-- Lengths without the zeros at the end; `least` of them are kept in any case. -/
def withoutLastZeros (least : Nat) (lengths : List Nat) : List Nat :=
  lengths.take least ++ ((lengths.drop least).reverse.dropWhile (· = 0)).reverse

/-- Equal numbers next to each other, each once with how often it stands there. -/
def equalRuns (numbers : List Nat) : List (Nat × Nat) :=
  numbers.foldr (fun n runs =>
    match runs with
    | (m, k) :: rest => if m = n then (m, k + 1) :: rest else (n, 1) :: runs
    | [] => [(n, 1)]) []

/-- A number as a sum of parts of the greatest size and a last smaller one. -/
def portions (greatest n : Nat) : List Nat :=
  List.replicate (n / greatest) greatest ++ (if n % greatest = 0 then [] else [n % greatest])

/-- Symbols of the code length alphabet with their extra bits, for one length that stands `n` times.
Fewer than three are written one by one; a repetition of a length other than zero has that length
before it. -/
def runSymbols (length n : Nat) : List (Nat × Field) :=
  if length = 0 then
    (portions 138 n).flatMap fun k =>
      if k < 3 then List.replicate k (0, ⟨0, 0⟩)
      else if k < 11 then [(17, ⟨3, k - 3⟩)] else [(18, ⟨7, k - 11⟩)]
  else
    (length, ⟨0, 0⟩) :: (portions 6 (n - 1)).flatMap fun k =>
      if k < 3 then List.replicate k (length, ⟨0, 0⟩) else [(16, ⟨2, k - 3⟩)]

/-- A block that brings its own codes. -/
def ownBlock (tokens : List Token) : List Field :=
  let literals := withoutLastZeros 257 (OptimalCode.lengths 15 (literalCounts tokens))
  let distances := withoutLastZeros 1 (OptimalCode.lengths 15 (distanceCounts tokens))
  let symbols := (equalRuns (literals ++ distances)).flatMap fun (length, n) => runSymbols length n
  let lengths := OptimalCode.lengths 7 (symbols.foldl (fun counts (symbol, _) => counts.modify symbol (· + 1))
    (Array.replicate 19 0))
  let sent := withoutLastZeros 4 (codeLengthOrder.map fun symbol => (lengths[symbol]?).getD 0)
  let table := codeTable lengths
  [⟨2, 2⟩, ⟨5, literals.length - 257⟩, ⟨5, distances.length - 1⟩, ⟨4, sent.length - 4⟩] ++
    sent.map (fun length => ⟨3, length⟩) ++
    symbols.flatMap (fun (symbol, extra) => [codeOf table symbol, extra]) ++ coded literals distances tokens

def fixedBlock (tokens : List Token) : List Field :=
  ⟨2, 1⟩ :: coded fixedLiteralLengths fixedDistanceLengths tokens

/-- Stored octets, from whole octet to whole octet. -/
def storedBlock (offset : Nat) (octets : Array UInt8) : List Field :=
  [⟨2, 0⟩, ⟨(8 - (offset + 2) % 8) % 8, 0⟩, ⟨16, octets.size⟩, ⟨16, 65535 - octets.size⟩] ++
    octets.toList.map fun octet => ⟨8, octet.toNat⟩

/-- A block after what is packed already. The whole octets that its codes fill tell whether it is stored
instead. -/
def addBlock (data : Array UInt8) (p : Packing) (block : Block) (isLast : Bool) : Packing :=
  let p := p.put ⟨1, if isLast then 1 else 0⟩
  let fields := if block.octets < 48 then fixedBlock block.tokens else ownBlock block.tokens
  let filled := fields.foldl (fun width field => width + field.width) p.width / 8
  if 32 < block.octets ∧ block.octets ≤ filled + 1 ∧ block.storable then
    p.putAll (storedBlock p.width (data.extract block.start (block.start + block.octets)))
  else p.putAll fields

def addBlocks (data : Array UInt8) (p : Packing) : List Block → Packing
  | [] => p
  | block :: rest => addBlocks data (addBlock data p block rest.isEmpty) rest

def deflate (bytes : Bytes) : Bytes :=
  let data := bytes.toArray
  (addBlocks data .empty (blocksOf data)).octets

end HttpExchange.Compression.Deflate
