import HttpExchange.Text.Basic
import HttpExchange.Text.Utf8

/-!
Percent escapes: an octet written as `%` and two hexadecimal digits. Query strings are read as name and value
pairs: pieces between `&`, each cut at its first `=`, with `+` for a space and percent escapes on both sides.
-/
namespace HttpExchange.Percent

/-- The value of a hexadecimal digit in either case. -/
def hexValue? (b : UInt8) : Option Nat :=
  let n := b.toNat
  if 48 ≤ n ∧ n ≤ 57 then some (n - 48)
  else if 65 ≤ n ∧ n ≤ 70 then some (n - 55)
  else if 97 ≤ n ∧ n ≤ 102 then some (n - 87)
  else none

/-- Replaces every escape by its octet; a `%` without two digits stands for itself. `found` holds
what is before, the last octet first. -/
def decodeAfter (found : Bytes) : Bytes → Bytes
  | [] => found.reverse
  | b :: high :: low :: rest =>
    if b = 37 then
      match hexValue? high, hexValue? low with
      | some h, some l => decodeAfter (.ofNat (16 * h + l) :: found) rest
      | _, _ => decodeAfter (b :: found) (high :: low :: rest)
    else decodeAfter (b :: found) (high :: low :: rest)
  | b :: rest => decodeAfter (b :: found) rest
termination_by bytes => bytes.length

def decode (bytes : Bytes) : Bytes := decodeAfter [] bytes

/-- The capital hexadecimal digit of a number below sixteen. -/
def hexDigit (n : Nat) : Char := if n < 10 then .ofNat (48 + n) else .ofNat (55 + n)

def escape (b : UInt8) : List Char := ['%', hexDigit (b.toNat / 16), hexDigit (b.toNat % 16)]

/-- Escapes the octets of the characters of class `p`. -/
def encodeWhere (p : Char → Bool) (s : String) : String :=
  .ofList (s.toList.flatMap fun c => if p c then (Utf8.encodeChar c).flatMap escape else [c])

end HttpExchange.Percent

namespace HttpExchange.Query

/-- The text of a name or value. -/
def component (bytes : Bytes) : String :=
  Utf8.decodeLossy (Percent.decode (bytes.map fun b => if b = 43 then 32 else b))

/-- The name and value of a piece; without `=` the value is empty. -/
def pair (piece : Bytes) : String × String :=
  let (name, value) := piece.span (· != 61)
  (component name, component (value.drop 1))

/-- The pairs in order, repeated names included and empty pieces left out. -/
def pairs (query : String) : List (String × String) :=
  ((Text.splitWhere (· == 38) (Utf8.encode query)).filter (· ≠ [])).map pair

end HttpExchange.Query
