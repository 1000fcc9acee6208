import HttpExchange.Tls.Curve

/-!
Private keys on elliptic curves: a number, with the curve and the public point where they are given.
-/
namespace HttpExchange.Tls

/-- A key: a curve and the number of times that its base point is taken. -/
structure CurveKey where
  curve : Curve
  secret : Nat
  deriving Repr, DecidableEq

namespace CurveKey

/-- The name of the algorithm, and the algorithm as it stands in front of a key on a curve. -/
def name : Bytes := [0x2A, 0x86, 0x48, 0xCE, 0x3D, 0x02, 0x01]
def algorithm (c : Curve) : Bytes := Der.written Der.objectName name ++ Der.written Der.objectName c.name

/-! ## Curves -/

/-- The name of fields of the remainders of a prime. -/
def primeField : Bytes := [0x2A, 0x86, 0x48, 0xCE, 0x3D, 0x01, 0x01]

/-- The two numbers of a base point that is written in full. -/
def basePoint? : Bytes → Option (Nat × Nat)
  | 4 :: octets =>
    let half := octets.length / 2
    if octets.length = 2 * half then some (Der.number (octets.take half), Der.number (octets.drop half)) else none
  | _ => none

/-- Reads a curve by its numbers, which must be those of a known one. -/
def describedCurve : Der.Reader Curve := Der.within Der.sequence do
  let version ← Der.natural
  let prime ← Der.within Der.sequence do
    let field ← Der.content Der.objectName
    if field = primeField then Der.natural else failure
  let (a, b) ← Der.within Der.sequence do
    let a ← Der.content Der.octetString
    let b ← Der.content Der.octetString
    let _seed ← Der.content? Der.bitString
    return (Der.number a, Der.number b)
  let base ← Der.content Der.octetString
  let order ← Der.natural
  let cofactor ← Der.content? Der.integer
  let isThat (c : Curve) : Bool :=
    c.prime == prime && c.prime - 3 == a && c.b == b && some c.base == basePoint? base && c.order == order
  match Curve.all.find? isThat with
  | some c => if version = 1 ∧ (cofactor.isNone ∨ cofactor = some [1]) then return c else failure
  | none => failure

/-- Reads a curve by its name or its numbers. -/
def toldCurve : Der.Reader Curve := fun octets =>
  if octets.head? = some Der.sequence then describedCurve octets
  else match Der.content Der.objectName octets with
    | some (name, rest) => (Curve.ofName? name).map fun c => (c, rest)
    | none => none

/-! ## Keys -/

/-- Reads a key on a curve. If the curve is told again it must be the same, and a public point must be the
one that belongs to the number. -/
def read (c : Curve) : Der.Reader CurveKey := Der.within Der.sequence do
  let version ← Der.natural
  let secret ← Der.content Der.octetString
  let told ← Der.content? (Der.part 0)
  let given ← Der.content? (Der.part 1)
  let n := Der.number secret
  let agrees := told.all fun octets => Der.whole? toldCurve octets == some c
  if version ≠ 1 ∨ n = 0 ∨ c.order ≤ n ∨ !agrees then failure
  match given with
  | none => return ⟨c, n⟩
  | some octets =>
    let point := (Der.whole? Der.fullBits octets).bind c.point?
    if point = some (c.publicPoint n) then return ⟨c, n⟩ else failure

/-- The public key. -/
def publicBits (k : CurveKey) : Bytes := k.curve.written (k.curve.publicPoint k.secret)

end CurveKey
end HttpExchange.Tls
