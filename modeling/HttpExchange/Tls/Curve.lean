import HttpExchange.Tls.Der

/-!
Arithmetic with the remainders of a prime, and elliptic curves over them, with points that a base point runs
through: how they are added, and how they are written.
-/
namespace HttpExchange.Tls.Residue

/-- The remainder of a power. -/
def power (p base : Nat) (exponent : Nat) : Nat :=
  if exponent = 0 then 1 % p
  else
    let half := power p base (exponent / 2)
    if exponent % 2 = 0 then half * half % p else half * half % p * base % p
termination_by exponent
decreasing_by omega

/-- The difference of two remainders. -/
def minus (p a b : Nat) : Nat := (a + (p - b % p)) % p

/-- The remainder that gives one with another, which is not zero. -/
def inverse (p a : Nat) : Nat := power p a (p - 2)

/-- A remainder whose square is another, if there is one. It is a power of the other where three is left
when the prime is divided by four. -/
def root? (p a : Nat) : Option Nat :=
  let r := power p a ((p + 1) / 4)
  if r * r % p = a % p then some r else none

end HttpExchange.Tls.Residue

namespace HttpExchange.Tls

/-- A curve of the points (x, y) with y² = x³ - 3x + b. Remainders are written in `octets` octets. -/
structure Curve where
  name : Bytes
  octets : Nat
  prime : Nat
  b : Nat
  base : Nat × Nat
  order : Nat
  deriving Repr, DecidableEq

namespace Curve

/-- A point by three numbers: x and y are the first two over the square and the cube of the third, which is
zero for the point beyond all others. -/
structure Point where
  x : Nat
  y : Nat
  z : Nat

/-- The point beyond all others. -/
def Point.beyond : Point := ⟨1, 1, 0⟩

/-- The point with itself. -/
def double (c : Curve) (a : Point) : Point :=
  let p := c.prime
  let z2 := a.z * a.z % p
  let y2 := a.y * a.y % p
  let s := a.x * y2 % p
  let m := 3 * (Residue.minus p a.x z2) * (a.x + z2) % p
  let x := Residue.minus p (m * m) (8 * s)
  ⟨x, Residue.minus p (m * Residue.minus p (4 * s) x) (8 * y2 * y2), 2 * a.y * a.z % p⟩

/-- Two points together. -/
def add (c : Curve) (a b : Point) : Point :=
  let p := c.prime
  if a.z = 0 then b
  else if b.z = 0 then a
  else
    let za := a.z * a.z % p
    let zb := b.z * b.z % p
    let xa := a.x * zb % p
    let xb := b.x * za % p
    let ya := a.y * zb % p * b.z % p
    let yb := b.y * za % p * a.z % p
    if xa = xb then (if ya = yb then c.double a else .beyond)
    else
      let h := Residue.minus p xb xa
      let r := Residue.minus p yb ya
      let h2 := h * h % p
      let h3 := h2 * h % p
      let v := xa * h2 % p
      let x := Residue.minus p (Residue.minus p (r * r) h3) (2 * v)
      ⟨x, Residue.minus p (r * Residue.minus p v x) (ya * h3), h * a.z % p * b.z % p⟩

/-- A point a number of times. -/
def times (c : Curve) (a : Point) (n : Nat) : Point :=
  if n = 0 then .beyond
  else
    let half := c.double (c.times a (n / 2))
    if n % 2 = 0 then half else c.add half a
termination_by n
decreasing_by omega

/-- The two numbers of a point that is not beyond all others. -/
def place (c : Curve) (a : Point) : Nat × Nat :=
  let p := c.prime
  let i := Residue.inverse p a.z
  let i2 := i * i % p
  (a.x * i2 % p, a.y * i2 % p * i % p)

/-- The point that belongs to a secret number. -/
def publicPoint (c : Curve) (secret : Nat) : Nat × Nat := c.place (c.times ⟨c.base.1, c.base.2, 1⟩ secret)

/-- What the square of y must be. -/
def squareAt (c : Curve) (x : Nat) : Nat :=
  Residue.minus c.prime (x * x % c.prime * x + c.b) (3 * x)

/-- The numbers are those of a point on the curve. -/
def holds (c : Curve) (x y : Nat) : Bool :=
  x < c.prime && y < c.prime && y * y % c.prime == c.squareAt x

/-- The point of an x whose y is odd or even. -/
def pointAt? (c : Curve) (x : Nat) (isOdd : Bool) : Option (Nat × Nat) := do
  if c.prime ≤ x then none
  let y ← Residue.root? c.prime (c.squareAt x)
  if (y % 2 == 1) == isOdd then some (x, y)
  else if y = 0 then none
  else some (x, c.prime - y)

/-- The octets of a point. -/
def written (c : Curve) (a : Nat × Nat) : Bytes := 4 :: Der.octetsOf c.octets a.1 ++ Der.octetsOf c.octets a.2

/-- Reads a point: both numbers, or x and whether y is odd, or all of these. -/
def point? (c : Curve) : Bytes → Option (Nat × Nat)
  | [] => none
  | form :: octets =>
    let (x, y) := (Der.number (octets.take c.octets), Der.number (octets.drop c.octets))
    if form = 2 ∨ form = 3 then
      if octets.length = c.octets then c.pointAt? x (form == 3) else none
    else if octets.length = 2 * c.octets ∧ c.holds x y ∧ (form = 4 ∨ form.toNat = 6 + y % 2) then some (x, y)
    else none

/-! ## The curves -/

def p256 : Curve where
  name := [0x2A, 0x86, 0x48, 0xCE, 0x3D, 0x03, 0x01, 0x07]
  octets := 32
  prime := 0xffffffff00000001000000000000000000000000ffffffffffffffffffffffff
  b := 0x5ac635d8aa3a93e7b3ebbd55769886bc651d06b0cc53b0f63bce3c3e27d2604b
  base := (0x6b17d1f2e12c4247f8bce6e563a440f277037d812deb33a0f4a13945d898c296,
    0x4fe342e2fe1a7f9b8ee7eb4a7c0f9e162bce33576b315ececbb6406837bf51f5)
  order := 0xffffffff00000000ffffffffffffffffbce6faada7179e84f3b9cac2fc632551

def p384 : Curve where
  name := [0x2B, 0x81, 0x04, 0x00, 0x22]
  octets := 48
  prime := 0xfffffffffffffffffffffffffffffffffffffffffffffffffffffffffffffffeffffffff0000000000000000ffffffff
  b := 0xb3312fa7e23ee7e4988e056be3f82d19181d9c6efe8141120314088f5013875ac656398d8a2ed19d2a85c8edd3ec2aef
  base := (
    0xaa87ca22be8b05378eb1c71ef320ad746e1d3b628ba79b9859f741e082542a385502f25dbf55296c3a545e3872760ab7,
    0x3617de4a96262c6f5d9e98bf9292dc29f8f41dbd289a147ce9da3113b5f0b8c00a60b1ce1d7e819d7a431d7c90ea0e5f)
  order := 0xffffffffffffffffffffffffffffffffffffffffffffffffc7634d81f4372ddf581a0db248b0a77aecec196accc52973

def p521 : Curve where
  name := [0x2B, 0x81, 0x04, 0x00, 0x23]
  octets := 66
  prime := 0x01ffffffffffffffffffffffffffffffffffffffffffffffffffffffffffffffffffffffffffffffffffffffffffffffffffffffffffffffffffffffffffffffffff
  b := 0x51953eb9618e1c9a1f929a21a0b68540eea2da725b99b315f3b8b489918ef109e156193951ec7e937b1652c0bd3bb1bf073573df883d2c34f1ef451fd46b503f00
  base := (
    0xc6858e06b70404e9cd9e3ecb662395b4429c648139053fb521f828af606b4d3dbaa14b5e77efe75928fe1dc127a2ffa8de3348b3c1856a429bf97e7e31c2e5bd66,
    0x11839296a789a3bc0045c8a5fb42c7d1bd998f54449579b446817afbd17273e662c97ee72995ef42640c550b9013fad0761353c7086a272c24088be94769fd16650)
  order := 0x01fffffffffffffffffffffffffffffffffffffffffffffffffffffffffffffffffa51868783bf2f966b7fcc0148f709a5d03bb5c9b8899c47aebb6fb71e91386409

/-- The curves that keys may lie on. -/
def all : List Curve := [p256, p384, p521]

def ofName? (name : Bytes) : Option Curve := all.find? (·.name == name)

end Curve
end HttpExchange.Tls
