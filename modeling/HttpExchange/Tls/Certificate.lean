import HttpExchange.Tls.Der

/-!
Certificates, as far as they are read: their form, the extensions that have a known meaning, and the public
key.
-/
namespace HttpExchange.Tls

/-- A certificate: its octets, and the content of the element that holds its public key. -/
structure Certificate where
  octets : Bytes
  publicKey : Bytes
  deriving Repr, DecidableEq

namespace Certificate

/-- Why octets are no certificate that can be used. -/
inductive Fault
  | badEncoding
  | unsupportedVersion
  | differingAlgorithms
  | repeatedExtension
  | unknownCriticalExtension
  deriving Repr, DecidableEq

/-- The fault in words. -/
def Fault.message (fault : Fault) : String :=
  let other (reason : String) : String := "Other(OtherError(" ++ reason ++ "))"
  "invalid peer certificate: " ++ match fault with
    | badEncoding => "BadEncoding"
    | unsupportedVersion => other "UnsupportedCertVersion"
    | differingAlgorithms => other "SignatureAlgorithmMismatch"
    | repeatedExtension => other "ExtensionValueInvalid"
    | unknownCriticalExtension => other "UnsupportedCriticalExtension"

/-- What must be there, or else the encoding is bad. -/
def required {α : Type} : Option α → Except Fault α
  | some a => .ok a
  | none => .error .badEncoding

/-! ## Extensions -/

/-- An extension: its name, whether a reader must know it, and its value. -/
structure Extension where
  name : Bytes
  isCritical : Bool
  value : Bytes
  deriving Repr, DecidableEq

namespace Extension

/-- Reads an extension. -/
def read : Der.Reader Extension := do
  let name ← Der.content Der.objectName
  let isCritical ← match ← Der.content? Der.boolean with
    | none => pure false
    | some [0xFF] => pure true
    | some [0] => pure false
    | some _ => failure
  return ⟨name, isCritical, ← Der.content Der.octetString⟩

/-- The number by which an extension is known: that of the use of the key, of other names, of the limits
of an authority, of the names it may give, of places of lists, or of purposes. -/
def known? (e : Extension) : Option UInt8 :=
  match e.name with
  | [0x55, 0x1D, n] => if [15, 17, 19, 30, 31, 37].contains n then some n else none
  | _ => none

/-- The value of a known extension is one sequence, but for the use of the key. -/
def isWellFormed (n : UInt8) (value : Bytes) : Bool :=
  n == 15 || (Der.whole? (Der.content Der.sequence) value).isSome

end Extension

/-- Reads extensions to the end of the octets, at most `fuel` of them. Each known one may stand there once,
and only known ones may be critical. -/
def readExtensions : Nat → List UInt8 → Bytes → Except Fault Unit
  | _, _, [] => .ok ()
  | 0, _, _ => .error .badEncoding
  | fuel + 1, seen, octets => do
    let (e, rest) ← required (Der.within Der.sequence Extension.read octets)
    match e.known? with
    | none => if e.isCritical then .error .unknownCriticalExtension else readExtensions fuel seen rest
    | some n =>
      if seen.contains n then .error .repeatedExtension
      else if Extension.isWellFormed n e.value then readExtensions fuel (n :: seen) rest
      else .error .badEncoding

/-! ## The whole -/

/-- The content of a certificate is shorter than this. -/
def sizeBound : Nat := 0xFFFF

/-- Reads the content of a certificate, which all octets make up. -/
def content? (octets : Bytes) : Option Bytes :=
  (Der.whole? (Der.content Der.sequence) octets).filter fun content => content.length < sizeBound

/-- Reads what is signed, and the algorithm of the signature. -/
def signed : Der.Reader (Bytes × Bytes) := do
  let signed ← Der.content Der.sequence
  let algorithm ← Der.content Der.sequence
  let _signature ← Der.fullBits
  return (signed, algorithm)

/-- Passes the mark of the third version, which is written as the number two. -/
def passVersion (octets : Bytes) : Except Fault Bytes :=
  match Der.content (Der.part 0) octets with
  | none => .error .unsupportedVersion
  | some (mark, rest) => do
    let (version, more) ← required (Der.natural mark)
    if 256 ≤ version then .error .badEncoding
    else if version = 2 ∧ more.isEmpty then .ok rest
    else .error .unsupportedVersion

/-- Reads serial number and algorithm; gives the algorithm. -/
def algorithm : Der.Reader Bytes := do
  let _serial ← Der.content Der.integer
  Der.content Der.sequence

/-- Reads issuer, validity, subject and public key; gives the key. -/
def key : Der.Reader Bytes := do
  let _issuer ← Der.content Der.sequence
  let _validity ← Der.content Der.sequence
  let _subject ← Der.content Der.sequence
  Der.content Der.sequence

/-- Reads a certificate. -/
def ofOctets (octets : Bytes) : Except Fault Certificate := do
  let (signed, signature) ← required ((content? octets).bind (Der.whole? signed))
  let rest ← passVersion signed
  let (algorithm, rest) ← required (algorithm rest)
  if algorithm ≠ signature then throw .differingAlgorithms
  let (publicKey, rest) ← required (key rest)
  if !rest.isEmpty then
    let (inner, rest) ← required (Der.content (Der.part 3) rest)
    let (extensions, more) ← required (Der.content Der.sequence inner)
    readExtensions extensions.length [] extensions
    if !more.isEmpty ∨ !rest.isEmpty then throw .badEncoding
  return ⟨octets, publicKey⟩

/-- Reads a certificate of the first version, which names no version and has no extensions. -/
def ofOldOctets? (octets : Bytes) : Option Certificate := do
  let read : Der.Reader Bytes := do
    let publicKey ← Der.within Der.sequence do
      let _algorithm ← algorithm
      key
    let _algorithm ← Der.content Der.sequence
    let _signature ← Der.content Der.bitString
    return publicKey
  return ⟨octets, ← (← content? octets) |> Der.whole? read⟩

/-- Reads a certificate that is trusted, of the third or the first version. -/
def ofTrustedOctets (octets : Bytes) : Except Fault Certificate :=
  match ofOctets octets with
  | .error .unsupportedVersion => required (ofOldOctets? octets)
  | read => read

end Certificate
end HttpExchange.Tls
