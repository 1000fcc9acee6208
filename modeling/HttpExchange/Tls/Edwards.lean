import HttpExchange.Tls.Curve
import HttpExchange.Tls.Der
import HttpExchange.Tls.Sha512

/-!
The curve of the points (x, y) with y² - x² = 1 + d x² y² over the remainders of 2²⁵⁵ - 19, and the public
keys that seeds have on it.
-/
namespace HttpExchange.Tls.Edwards

/-- The name of the algorithm. -/
def name : Bytes := [0x2B, 0x65, 0x70]

def prime : Nat := 0x7fffffffffffffffffffffffffffffffffffffffffffffffffffffffffffffed

/-- The number d, which is no square. -/
def d : Nat := 0x52036cee2b6ffe738cc740797779e89800700a4d4141d8ab75eb4dca135978a3

/-- A point by three numbers: x and y are the first two over the third. -/
structure Point where
  x : Nat
  y : Nat
  z : Nat

/-- The point that changes nothing. -/
def zero : Point := ⟨0, 1, 1⟩

/-- The base point. -/
def base : Point where
  x := 0x216936d3cd6e53fec0a4e231fdd6dc5c692cc7609525a7b2c9562d608f25d51a
  y := 0x6666666666666666666666666666666666666666666666666666666666666658
  z := 1

/-- Two points together; they may be the same. -/
def add (a b : Point) : Point :=
  let p := prime
  let z := a.z * b.z % p
  let z2 := z * z % p
  let x := a.x * b.x % p
  let y := a.y * b.y % p
  let e := d * x % p * y % p
  let f := Residue.minus p z2 e
  let g := (z2 + e) % p
  ⟨z * f % p * Residue.minus p ((a.x + a.y) * (b.x + b.y)) (x + y) % p, z * g % p * (x + y) % p, f * g % p⟩

/-- A point a number of times. -/
def times (a : Point) (n : Nat) : Point :=
  if n = 0 then zero
  else
    let half := times a (n / 2)
    if n % 2 = 0 then add half half else add a (add half half)
termination_by n
decreasing_by omega

/-- The octets of a point: y, the lowest first, with the lowest bit of x on top. -/
def written (a : Point) : Bytes :=
  let i := Residue.inverse prime a.z
  let x := a.x * i % prime
  let y := a.y * i % prime
  (Der.octetsOf 32 (y + x % 2 * Nat.pow 2 255)).reverse

/-- The number of a seed: half of its digest, with the lowest three bits and the topmost cleared and the one
below that set. -/
def secretNumber (seed : Bytes) : Nat :=
  let n := Der.number ((Sha512.digest seed).take 32).reverse
  n % Nat.pow 2 254 / 8 * 8 + Nat.pow 2 254

def publicKey (seed : Bytes) : Bytes := written (times base (secretNumber seed))

end HttpExchange.Tls.Edwards
