import HttpExchange.Tls.CurveKey
import HttpExchange.Tls.Edwards
import HttpExchange.Tls.Pem
import HttpExchange.Tls.RsaKey

/-!
Private keys of all kinds, as files hold them, and the public keys that belong to them.
-/
namespace HttpExchange.Tls

/-- A private key. -/
inductive PrivateKey
  | rsa (key : RsaKey)
  | curve (key : CurveKey)
  | edwards (seed : Bytes)
  deriving Repr, DecidableEq

namespace PrivateKey

/-- The content of the element that holds the public key: the algorithm and the bits. -/
def publicKey : PrivateKey → Bytes
  | rsa k => Der.written Der.sequence RsaKey.algorithm ++ Der.writtenBits k.publicBits
  | curve k => Der.written Der.sequence (CurveKey.algorithm k.curve) ++ Der.writtenBits k.publicBits
  | edwards seed =>
    Der.written Der.sequence (Der.written Der.objectName Edwards.name) ++ Der.writtenBits (Edwards.publicKey seed)

/-- A key with the name of its algorithm around it, and perhaps the public key. -/
structure Wrapped where
  name : Bytes
  parameters : Bytes
  key : Bytes
  given : Option Bytes

/-- The tag of a public key beside a wrapped key. -/
def givenTag : UInt8 := 0x81

/-- Reads a wrapped key; only the second version may hold the public key. -/
def wrapped : Der.Reader Wrapped := Der.within Der.sequence do
  let version ← Der.natural
  let algorithm ← Der.content Der.sequence
  let key ← Der.content Der.octetString
  let _attributes ← Der.content? (Der.part 0)
  let given ← if version = 1 then Der.content? givenTag else pure none
  match Der.content Der.objectName algorithm with
  | some (name, parameters) => if version ≤ 1 then return ⟨name, parameters, key, given⟩ else failure
  | none => failure

/-- Reads the seed of a key; if the public key is given it must be the one that belongs to it. -/
def ofSeed? (key : Bytes) (given : Option Bytes) : Option PrivateKey := do
  let seed ← Der.whole? (Der.content Der.octetString) key
  if seed.length = 32 ∧ given.all (· == 0 :: Edwards.publicKey seed) then some (edwards seed) else none

/-- The key that is wrapped, by the name of its algorithm. -/
def Wrapped.unwrapped? (w : Wrapped) : Option PrivateKey :=
  if w.name = RsaKey.name then
    if w.parameters = RsaKey.parameters then (Der.whole? RsaKey.read w.key).map rsa else none
  else if w.name = CurveKey.name then do
    let c ← Der.whole? CurveKey.toldCurve w.parameters
    return curve (← Der.whole? (CurveKey.read c) w.key)
  else if w.name = Edwards.name then
    if w.parameters.isEmpty then ofSeed? w.key w.given else none
  else none

/-- Reads a wrapped key at the start of octets. -/
def ofWrapped? (octets : Bytes) : Option PrivateKey := (wrapped octets).bind fun (w, _) => w.unwrapped?

/-- Reads a key on a curve at the start of octets, wrapped or on its own. -/
def ofCurveKey? (octets : Bytes) : Option PrivateKey :=
  let bare := (Curve.all.findSome? fun c => CurveKey.read c octets).map fun (k, _) => curve k
  let inside := (ofWrapped? octets).filter fun
    | curve _ => true
    | _ => false
  bare <|> inside

/-- Reads the key of a section. -/
def ofSection? (s : Pem.Section) : Option PrivateKey :=
  match s.label with
  | .privateKey => ofWrapped? s.content
  | .curveKey => ofCurveKey? s.content
  | .rsaKey => (RsaKey.read s.content).map fun (k, _) => rsa k
  | _ => none

end PrivateKey
end HttpExchange.Tls
