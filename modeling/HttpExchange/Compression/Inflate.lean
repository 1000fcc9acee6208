import HttpExchange.Compression.Huffman

/-!
Deflated data read back: stored blocks, blocks in the fixed codes and blocks that bring their own.
What lies before the first octet counts as zeros.
-/
namespace HttpExchange.Compression.Inflate

/-- The codes of one block. -/
structure BlockCodes where
  literals : CodeTree
  distances : CodeTree

/-- The code of these lengths; codes that leave paths out are corrupt. -/
def codeOf (sparse : Bool) (lengths : List Nat) : Reader CodeTree :=
  match CodeTree.ofLengths? sparse lengths with
  | some tree => return tree
  | none => throw .corrupt

def fixedCodes : Reader BlockCodes :=
  return ⟨← codeOf false fixedLiteralLengths, ← codeOf false fixedDistanceLengths⟩

/-- Numbers of `width` bits each. -/
def fields (width : Nat) : Nat → Reader (List Nat)
  | 0 => return []
  | k + 1 => return (← Reader.bits width) :: (← fields width k)

/-- Reads code lengths until there are at least `wanted`; symbols above 15 repeat the last length or
zero. `found` holds those read, the last one first. -/
def codeLengths (code : CodeTree) (wanted : Nat) (found : List Nat) : Reader (List Nat) :=
  if wanted ≤ found.length then return found.reverse
  else fuelled wanted found
where
  /-- Reads at most `fuel` more symbols, each of which gives one length at least. -/
  fuelled : Nat → List Nat → Reader (List Nat)
    | 0, found => return found.reverse
    | fuel + 1, found => do
      if wanted ≤ found.length then return found.reverse
      else
        let symbol ← code.symbol
        if symbol < 16 then fuelled fuel (symbol :: found)
        else if symbol = 16 then
          match found with
          | [] => throw .corrupt
          | last :: _ => fuelled fuel (List.replicate (3 + (← Reader.bits 2)) last ++ found)
        else if symbol = 17 then fuelled fuel (List.replicate (3 + (← Reader.bits 3)) 0 ++ found)
        else fuelled fuel (List.replicate (11 + (← Reader.bits 7)) 0 ++ found)

/-- The lengths in symbol order, sent in the order of `codeLengthOrder`. -/
def arranged (sent : List Nat) : List Nat :=
  (List.range 19).map fun symbol => ((codeLengthOrder.zip sent).lookup symbol).getD 0

/-- Reads the codes that a block brings. -/
def ownCodes : Reader BlockCodes := do
  let literalCount := 257 + (← Reader.bits 5)
  let distanceCount := 1 + (← Reader.bits 5)
  let sentCount := 4 + (← Reader.bits 4)
  if 286 < literalCount ∨ 30 < distanceCount then throw .corrupt
  let lengthCode ← codeOf false (arranged (← fields 3 sentCount))
  let lengths ← codeLengths lengthCode (literalCount + distanceCount) []
  if lengths.length ≠ literalCount + distanceCount then throw .corrupt
  return ⟨← codeOf true (lengths.take literalCount), ← codeOf true (lengths.drop literalCount)⟩

/-- Repeats `length` octets from `distance` octets before the end. -/
def repeated (out : Array UInt8) (distance : Nat) : Nat → Array UInt8
  | 0 => out
  | length + 1 =>
    repeated (out.push (if distance ≤ out.size then (out[out.size - distance]?).getD 0 else 0)) distance length

/-- The value of a symbol with extra bits; a symbol outside the table is corrupt. -/
def extended (table : List (Nat × Nat)) (symbol : Nat) : Reader Nat :=
  match table[symbol]? with
  | none => throw .corrupt
  | some (least, extra) => return least + (← Reader.bits extra)

/-- Reads the symbols of a block up to its end, at most `fuel` of them. -/
def symbols (codes : BlockCodes) : Nat → Array UInt8 → Reader (Array UInt8)
  | 0, _ => throw .truncated
  | fuel + 1, out => do
    let symbol ← codes.literals.symbol
    if symbol < endOfBlock then symbols codes fuel (out.push (.ofNat symbol))
    else if symbol = endOfBlock then return out
    else
      let length ← extended lengthSymbols (symbol - 257)
      let distance ← extended distanceSymbols (← codes.distances.symbol)
      symbols codes fuel (repeated out distance length)

/-- Reads the octets of a stored block, whose length is sent twice, the second time inverted. -/
def stored : Reader Bytes := do
  Reader.align
  let length ← Reader.bits 16
  let inverted ← Reader.bits 16
  if length + inverted ≠ 65535 then throw .corrupt
  Reader.octets length

/-- Reads blocks up to the last one, at most `fuel` of them, and skips to the next whole octet. -/
def blocks (symbolFuel : Nat) : Nat → Array UInt8 → Reader (Array UInt8)
  | 0, _ => throw .truncated
  | fuel + 1, out => do
    let isLast ← Reader.bit
    let out ← match ← Reader.bits 2 with
      | 0 => (out ++ ·.toArray) <$> stored
      | 1 => symbols (← fixedCodes) symbolFuel out
      | 2 => symbols (← ownCodes) symbolFuel out
      | _ => throw .corrupt
    if isLast then do
      Reader.align
      return out
    else blocks symbolFuel fuel out

/-- Reads a deflated stream. Every block and every symbol takes a bit at least, so the bits that are
left bound both. -/
def stream : Reader Bytes := do
  let c ← get
  let fuel := 8 * c.data.size - c.position + 1
  return (← blocks fuel fuel #[]).toList

end HttpExchange.Compression.Inflate
