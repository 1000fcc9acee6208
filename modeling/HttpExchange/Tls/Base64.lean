import HttpExchange.Bytes
import HttpExchange.Text.Basic

/-!
Octets written in the 64 letters, digits and signs of base 64, with white space anywhere and equals
signs to fill the last group of four.
-/
namespace HttpExchange.Tls.Base64

/-- Why a text is not in base 64. -/
inductive Fault
  | invalidCharacter (octet : UInt8)
  | misplacedFilling
  | unfinished
  deriving Repr, DecidableEq

/-- The fault in words. -/
def Fault.message : Fault → String
  | invalidCharacter octet => "InvalidCharacter(" ++ Text.decimal octet.toNat ++ ")"
  | misplacedFilling => "PrematurePadding"
  | unfinished => "InvalidTrailingPadding"

/-- The value of a letter, digit or sign. -/
def value? (octet : UInt8) : Option Nat :=
  if 65 ≤ octet ∧ octet ≤ 90 then some (octet.toNat - 65)
  else if 97 ≤ octet ∧ octet ≤ 122 then some (octet.toNat - 71)
  else if 48 ≤ octet ∧ octet ≤ 57 then some (octet.toNat + 4)
  else if octet = 43 then some 62
  else if octet = 47 then some 63
  else none

/-- White space, which is passed over. -/
def isBlank (octet : UInt8) : Bool := (9 ≤ octet && octet ≤ 13) || octet == 32

/-- The sign that fills the last group. -/
def filling : UInt8 := 61

/-- What a character means: a value, or that the last group is filled up. -/
def symbol? (octet : UInt8) : Option (Option Nat) :=
  if octet = filling then some none else (value? octet).map some

/-- The octets of four values. -/
def octets (a b c d : Nat) : Bytes := [.ofNat (4 * a + b / 16), .ofNat (16 * b + c / 4), .ofNat (64 * c + d)]

/-- The octets of a last group of up to four symbols. A group that is not full has the octets that its
values settle. -/
def lastGroup : List (Option Nat) → Except Fault Bytes
  | [] => .ok []
  | [some a, some b, some c, some d] => .ok (octets a b c d)
  | [some a, some b, some c, none] => .ok ((octets a b c 0).take 2)
  | [some a, some b, some c] => .ok ((octets a b c 0).take 2)
  | [some a, some b, none, none] => .ok ((octets a b 0 0).take 1)
  | [some a, some b] => .ok ((octets a b 0 0).take 1)
  | _ => .error .unfinished

/-- The octets of up to eight symbols, with which a text ends. -/
def ending : List (Option Nat) → Except Fault Bytes
  | some a :: some b :: some c :: some d :: e :: rest => (lastGroup (e :: rest)).map (octets a b c d ++ ·)
  | _ :: _ :: _ :: _ :: _ :: _ => .error .misplacedFilling
  | symbols => lastGroup symbols

/-- The octets of eight values that are not the last. -/
def inner? : List (Option Nat) → Option Bytes
  | [some a, some b, some c, some d, some e, some f, some g, some h] => some (octets a b c d ++ octets e f g h)
  | _ => none

/-- Decodes what follows up to eight symbols, of which the last stands first, and the octets of those
before, the last one first. Whether symbols are in their place is seen when others follow eight of them. -/
def decodeAfter (found : Bytes) (symbols : List (Option Nat)) : Bytes → Except Fault Bytes
  | [] => (ending symbols.reverse).map (found.reverse ++ ·)
  | octet :: rest =>
    if isBlank octet then decodeAfter found symbols rest
    else match symbol? octet with
      | none => .error (.invalidCharacter octet)
      | some symbol =>
        if symbols.length < 8 then decodeAfter found (symbol :: symbols) rest
        else match inner? symbols.reverse with
          | some octets => decodeAfter (octets.reverse ++ found) [symbol] rest
          | none => .error .misplacedFilling

def decode (text : Bytes) : Except Fault Bytes := decodeAfter [] [] text

end HttpExchange.Tls.Base64
