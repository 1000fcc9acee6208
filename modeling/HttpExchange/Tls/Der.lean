import HttpExchange.Bytes

/-!
Elements of nested data: each is a tag, the length of its content in as few octets as will do, and the
content.
-/
namespace HttpExchange.Tls.Der

/-- A tag with its content. -/
structure Element where
  tag : UInt8
  content : Bytes
  deriving Repr, DecidableEq

/-- The tags that certificates and keys are made of. -/
def boolean : UInt8 := 0x01
def integer : UInt8 := 0x02
def bitString : UInt8 := 0x03
def octetString : UInt8 := 0x04
def null : UInt8 := 0x05
def objectName : UInt8 := 0x06
def sequence : UInt8 := 0x30

/-- The tag of a part that may be left out, by its number. -/
def part (n : UInt8) : UInt8 := 0xA0 + n

/-- The number that octets write, the highest first. -/
def number (octets : Bytes) : Nat := octets.foldl (fun n octet => 256 * n + octet.toNat) 0

/-- The octets of a number, the highest first, in front of others. -/
def octetsOnto (n : Nat) (rest : Bytes) : Bytes :=
  if n < 256 then .ofNat n :: rest else octetsOnto (n / 256) (.ofNat n :: rest)

/-- The octets of a number, with zeros in front up to a length. -/
def octetsOf (length n : Nat) : Bytes :=
  let octets := octetsOnto n []
  List.replicate (length - octets.length) 0 ++ octets

/-! ## Reading -/

/-- Reads some octets of those there are. -/
abbrev Reader := StateT Bytes Option

/-- Reads a length: below 128 in one octet, else in as many as the first one says, four at most and no
more than are needed. -/
def length? : Bytes → Option (Nat × Bytes)
  | [] => none
  | first :: rest =>
    if first < 128 then some (first.toNat, rest)
    else
      let count := first.toNat - 128
      let octets := rest.take count
      let n := number octets
      if count = 0 ∨ 4 < count ∨ octets.length < count ∨ n < 128 ∨ (1 < count ∧ n < Nat.pow 256 (count - 1)) then none
      else some (n, rest.drop count)

/-- Reads the first element. -/
def element : Reader Element
  | [] => none
  | tag :: rest =>
    if tag &&& 0x1F = 0x1F then none
    else match length? rest with
      | none => none
      | some (n, rest) => if rest.length < n then none else some (⟨tag, rest.take n⟩, rest.drop n)

/-- Reads an element of a tag. -/
def content (tag : UInt8) : Reader Bytes := do
  let e ← element
  if e.tag = tag then return e.content else failure

/-- Reads an element if it is of a tag. -/
def content? (tag : UInt8) : Reader (Option Bytes) := fun octets =>
  if octets.head? = some tag then (content tag octets).map fun (content, rest) => (some content, rest)
  else some (none, octets)

/-- Reads an integer that is not negative, in as few octets as will do. -/
def natural : Reader Nat := do
  match ← content integer with
  | [] => failure
  | [first] => if first < 128 then return first.toNat else failure
  | first :: second :: rest =>
    if first < 128 ∧ (first ≠ 0 ∨ 128 ≤ second) then return number (first :: second :: rest) else failure

/-- Reads octets to their end. -/
def whole? {α : Type} (read : Reader α) (octets : Bytes) : Option α :=
  match read octets with
  | some (a, []) => some a
  | _ => none

/-- Reads all of the content of an element of a tag. -/
def within {α : Type} (tag : UInt8) (read : Reader α) : Reader α := do
  match whole? read (← content tag) with
  | some a => return a
  | none => failure

/-- Reads bits that fill their octets. -/
def fullBits : Reader Bytes := do
  match ← content bitString with
  | 0 :: octets => return octets
  | _ => failure

/-! ## Writing -/

/-- The octets of a length. -/
def lengthOctets (n : Nat) : Bytes :=
  if n < 128 then [.ofNat n]
  else
    let octets := octetsOnto n []
    .ofNat (128 + octets.length) :: octets

/-- The octets of an element. -/
def written (tag : UInt8) (content : Bytes) : Bytes := tag :: lengthOctets content.length ++ content

/-- The octets of bits that fill theirs. -/
def writtenBits (octets : Bytes) : Bytes := written bitString (0 :: octets)

/-- The octets of an integer. -/
def writtenNatural (n : Nat) : Bytes :=
  let octets := octetsOnto n []
  written integer (if octets.head?.any (128 ≤ ·) then 0 :: octets else octets)

end HttpExchange.Tls.Der
