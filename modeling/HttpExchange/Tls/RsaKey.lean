import HttpExchange.Tls.Der

/-!
Private keys of two primes, with the numbers that speed up their use.
-/
namespace HttpExchange.Tls

/-- A key: the product of two primes, the public and the secret exponent, the primes, the remainders of the
secret exponent, and the inverse of the second prime. -/
structure RsaKey where
  modulus : Nat
  publicExponent : Nat
  secretExponent : Nat
  p : Nat
  q : Nat
  remainderP : Nat
  remainderQ : Nat
  inverseQ : Nat
  deriving Repr, DecidableEq

namespace RsaKey

/-- The name of the algorithm, and the algorithm as it stands in front of a key. -/
def name : Bytes := [0x2A, 0x86, 0x48, 0x86, 0xF7, 0x0D, 0x01, 0x01, 0x01]
def parameters : Bytes := Der.written Der.null []
def algorithm : Bytes := Der.written Der.objectName name ++ parameters

/-- Reads the numbers of a key. -/
def numbers : Der.Reader RsaKey := Der.within Der.sequence do
  let version ← Der.natural
  if version ≠ 0 then failure
  let modulus ← Der.natural
  let publicExponent ← Der.natural
  let secretExponent ← Der.natural
  let p ← Der.natural
  let q ← Der.natural
  let remainderP ← Der.natural
  let remainderQ ← Der.natural
  return ⟨modulus, publicExponent, secretExponent, p, q, remainderP, remainderQ, ← Der.natural⟩

/-- The number is below a modulus and its product with another leaves one. -/
def inverts (m a i : Nat) : Bool := i < m && a * i % m == 1

/-- The size of the modulus is one that is used. -/
def hasUsualSize (k : RsaKey) : Bool := Nat.pow 2 2047 ≤ k.modulus && k.modulus < Nat.pow 2 8192

/-- The exponent for everyone is odd, more than one, and short. -/
def hasUsualExponent (k : RsaKey) : Bool :=
  3 ≤ k.publicExponent && k.publicExponent % 2 == 1 && k.publicExponent < Nat.pow 2 33

/-- The numbers belong together. -/
def isConsistent (k : RsaKey) : Bool :=
  k.modulus % 2 == 1 && k.secretExponent < k.modulus && k.p < k.modulus && k.q < k.modulus &&
    k.p * k.q == k.modulus &&
    k.secretExponent * k.publicExponent % (k.p - 1) == 1 && k.secretExponent * k.publicExponent % (k.q - 1) == 1 &&
    inverts (k.p - 1) k.publicExponent k.remainderP && inverts (k.q - 1) k.publicExponent k.remainderQ &&
    inverts k.p k.q k.inverseQ

/-- Reads a key whose numbers belong together. -/
def read : Der.Reader RsaKey := do
  let k ← numbers
  if k.hasUsualSize ∧ k.hasUsualExponent ∧ k.isConsistent then return k else failure

def publicBits (k : RsaKey) : Bytes :=
  Der.written Der.sequence (Der.writtenNatural k.modulus ++ Der.writtenNatural k.publicExponent)

end RsaKey
end HttpExchange.Tls
