import HttpExchange.Bytes

/-!
Bit strings packed into octets, the low bit of each octet first: a reader with its position and the
packing of a list of bits.
-/
namespace HttpExchange.Compression

/-- Why a compressed stream cannot be read. -/
inductive Fault
  | truncated
  | corrupt
  deriving Repr, DecidableEq

/-- Octets and the position of the next bit. -/
structure Cursor where
  data : Array UInt8
  position : Nat

/-- Reads bits from the cursor on. -/
abbrev Reader := StateT Cursor (Except Fault)

namespace Reader

/-- The next bit. -/
def bit : Reader Bool := do
  let c ← get
  match c.data[c.position / 8]? with
  | none => throw .truncated
  | some b =>
    set { c with position := c.position + 1 }
    return b.toNat.testBit (c.position % 8)

/-- A number of `k` bits, the low bit first. -/
def bits : Nat → Reader Nat
  | 0 => return 0
  | k + 1 => do
    let low ← bit
    let high ← bits k
    return (if low then 1 else 0) + 2 * high

/-- Skips to the start of the next octet. -/
def align : Reader Unit := modify fun c => { c with position := (c.position + 7) / 8 * 8 }

/-- The next `k` whole octets, the cursor being aligned. -/
def octets (k : Nat) : Reader Bytes := do
  let c ← get
  let start := c.position / 8
  if start + k ≤ c.data.size then
    set { c with position := c.position + 8 * k }
    return (c.data.extract start (start + k)).toList
  else throw .truncated

end Reader

/-- The `k` low bits of a number, the low bit first. -/
def bitsOf : Nat → Nat → List Bool
  | 0, _ => []
  | k + 1, n => (n % 2 == 1) :: bitsOf k (n / 2)

/-- The number of which these are the bits, the low bit first. -/
def ofBits (bits : List Bool) : Nat := bits.foldr (fun b n => (if b then 1 else 0) + 2 * n) 0

/-- A number in a number of bits. -/
structure Field where
  width : Nat
  value : Nat
  deriving Repr, DecidableEq

/-- Fields packed one after another: the whole octets, the last one first, and the bits after them. -/
structure Packing where
  whole : Bytes
  pending : Nat
  width : Nat

namespace Packing

def empty : Packing := ⟨[], 0, 0⟩

/-- Puts the `k` low octets of a number before others, the low one first, and gives what is left of it. -/
def fill : Nat → Nat → Bytes → Bytes × Nat
  | 0, n, whole => (whole, n)
  | k + 1, n, whole => fill k (n / 256) (.ofNat n :: whole)

/-- Packs a field. -/
def put (p : Packing) (field : Field) : Packing :=
  let width := p.width + field.width
  let (whole, pending) := fill (width / 8) (p.pending + Nat.shiftLeft field.value p.width) p.whole
  ⟨whole, pending, width % 8⟩

def putAll (p : Packing) (fields : List Field) : Packing := fields.foldl put p

/-- All octets, the last one filled up with zeros. -/
def octets (p : Packing) : Bytes := (if p.width = 0 then p.whole else .ofNat p.pending :: p.whole).reverse

end Packing
end HttpExchange.Compression
