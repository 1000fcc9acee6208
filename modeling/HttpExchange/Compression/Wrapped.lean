import HttpExchange.Bytes
import HttpExchange.Compression.Deflate
import HttpExchange.Compression.Inflate

/-!
Deflated data in its two wrappers, each with a sum of the data behind it. One wrapper names files: a head of ten
octets and optional fields, then the data, its cyclic redundancy check and its length; only the first member of a
file is read. The other has two head octets and Adler's sum; what follows the sum is not read.
-/
namespace HttpExchange.Compression

/-- One octet's remainder under the reflected polynomial `0xEDB88320`. -/
def crcRemainder (n : UInt32) : UInt32 :=
  (List.range 8).foldl (fun (c : UInt32) _ => if c &&& 1 = 1 then (c >>> 1) ^^^ 0xEDB88320 else c >>> 1) n

/-- The remainders of all octets. -/
def crcTable : Array UInt32 := .ofFn fun i : Fin 256 => crcRemainder (.ofNat i)

/-- The cyclic redundancy check of an octet string. -/
def crc32 (bytes : Bytes) : Nat :=
  let last := bytes.foldl (fun (c : UInt32) b =>
    (crcTable[((c ^^^ b.toUInt32) &&& 0xFF).toNat]?).getD 0 ^^^ (c >>> 8)) 0xFFFFFFFF
  (last ^^^ 0xFFFFFFFF).toNat

/-- Adler's sum of an octet string. -/
def adler32 (bytes : Bytes) : Nat :=
  let (a, b) := bytes.foldl (fun (s : Nat × Nat) byte =>
    let a := (s.1 + byte.toNat) % 65521
    (a, (s.2 + a) % 65521)) (1, 0)
  b * 65536 + a

/-- A number in `k` octets, the low one first; what does not fit is cut off. -/
def lowFirst : Nat → Nat → Bytes
  | 0, _ => []
  | k + 1, n => .ofNat n :: lowFirst k (n / 256)

/-- The number of which these are the octets, the low one first. -/
def ofLowFirst (bytes : Bytes) : Nat := bytes.foldr (fun b n => b.toNat + 256 * n) 0

/-- The number of which these are the octets, the high one first. -/
def ofHighFirst (bytes : Bytes) : Nat := bytes.foldl (fun n b => 256 * n + b.toNat) 0

end HttpExchange.Compression

namespace HttpExchange.Compression.Gzip

/-- Why a wrapped stream cannot be read. -/
inductive Fault
  | headInvalid
  | fieldTooLong
  | cutShort
  | data (fault : Compression.Fault)
  | checksum
  deriving Repr, DecidableEq

/-- The longest name or comment that is read. -/
def maxField : Nat := 65535

/-- The first `k` octets and the rest. -/
def splitAt (k : Nat) (bytes : Bytes) : Except Fault (Bytes × Bytes) :=
  if k ≤ bytes.length then .ok (bytes.splitAt k) else .error .cutShort

/-- Skips a text up to and including its zero octet. -/
def skipText (bytes : Bytes) : Except Fault Bytes :=
  match bytes.span (· != 0) with
  | (text, rest) =>
    if maxField < text.length then .error .fieldTooLong
    else match rest with
      | [] => .error .cutShort
      | _ :: rest => .ok rest

/-- Skips a field of octets whose length is sent before it. -/
def skipExtra (bytes : Bytes) : Except Fault Bytes := do
  let (length, rest) ← splitAt 2 bytes
  return (← splitAt (ofLowFirst length) rest).2

/-- Skips the head and gives what follows it. -/
def skipHead (bytes : Bytes) : Except Fault Bytes := do
  let (head, rest) ← splitAt 10 bytes
  match head with
  | 0x1f :: 0x8b :: 8 :: flags :: _ =>
    let has (i : Nat) : Bool := flags.toNat.testBit i
    if 32 ≤ flags.toNat then throw .headInvalid
    let rest ← if has 2 then skipExtra rest else pure rest
    let rest ← if has 3 then skipText rest else pure rest
    let rest ← if has 4 then skipText rest else pure rest
    if has 1 then
      let (sum, after) ← splitAt 2 rest
      if ofLowFirst sum ≠ crc32 (bytes.take (bytes.length - rest.length)) % 65536 then throw .checksum
      return after
    else return rest
  | _ => throw .headInvalid

/-- Unpacks the first member. -/
def unpack (bytes : Bytes) : Except Fault Bytes := do
  let body ← skipHead bytes
  match Inflate.stream.run ⟨body.toArray, 0⟩ with
  | .error fault => throw (.data fault)
  | .ok (data, cursor) =>
    let (sum, rest) ← splitAt 4 (body.drop (cursor.position / 8))
    let (length, _) ← splitAt 4 rest
    if ofLowFirst sum ≠ crc32 data ∨ ofLowFirst length ≠ data.length % 4294967296 then throw .checksum
    return data

/-- Packs an octet string, with no name and no time. -/
def pack (bytes : Bytes) : Bytes :=
  [0x1f, 0x8b, 8, 0, 0, 0, 0, 0, 0, 0xff] ++ Deflate.deflate bytes ++ lowFirst 4 (crc32 bytes) ++
    lowFirst 4 bytes.length

end HttpExchange.Compression.Gzip

namespace HttpExchange.Compression.Zlib

/-- The head octets announce deflated data, a window that exists, no dictionary, and their own check. -/
def headIsValid (method flags : Nat) : Bool :=
  (256 * method + flags) % 31 == 0 && method % 16 == 8 && method / 16 ≤ 7 && !flags.testBit 5

/-- Reads head, data and sum. -/
def stream : Reader Bytes := do
  let method ← Reader.bits 8
  let flags ← Reader.bits 8
  if !headIsValid method flags then throw .corrupt
  let data ← Inflate.stream
  let sum ← Reader.octets 4
  if ofHighFirst sum ≠ adler32 data then throw .corrupt
  return data

/-- Unpacks wrapped data. -/
def unpack (bytes : Bytes) : Except Fault Bytes := Prod.fst <$> stream.run ⟨bytes.toArray, 0⟩

end HttpExchange.Compression.Zlib
