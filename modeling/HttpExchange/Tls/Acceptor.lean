import HttpExchange.Failure
import HttpExchange.Tls.PrivateKey

/-!
What a server shows to its clients: a chain of certificates, and the key that fits the first of them.
-/
namespace HttpExchange.Tls

/-- Certificates as they are sent, the server's own first, and its key. -/
structure Acceptor where
  chain : List Bytes
  key : PrivateKey
  deriving Repr, DecidableEq

namespace Acceptor

/-- The first certificate fits the key. -/
def checkPair (chain : List Bytes) (key : PrivateKey) : Except PairFault Unit :=
  match chain with
  | [] => .error .noCertificate
  | first :: _ =>
    match Certificate.ofOctets first with
    | .error fault => .error (.unusableCertificate fault)
    | .ok certificate => if certificate.publicKey = key.publicKey then .ok () else .error .mismatch

/-- A chain and a key that fit each other. -/
def ofParts (chain : List Bytes) (keySection : Pem.Section) : Except PairFault Acceptor :=
  match PrivateKey.ofSection? keySection with
  | none => .error .unusableKey
  | some key => (checkPair chain key).map fun _ => ⟨chain, key⟩

/-- Loads chain and key from files, of which both must be there. -/
def load (certPath keyPath : String) (file : String → Option Bytes) : Except Failure Acceptor :=
  match file certPath, file keyPath with
  | none, _ => .error (.tls (.certificateFileMissing certPath))
  | _, none => .error (.tls (.keyFileMissing keyPath))
  | some certText, some keyText =>
    match Pem.certificates certText, Pem.privateKey? keyText with
    | .error fault, _ => .error (.system (.unreadablePem fault))
    | _, .error fault => .error (.system (.unreadablePem fault))
    | _, .ok none => .error (.tls (.noPrivateKey keyPath))
    | .ok chain, .ok (some key) => (ofParts chain key).mapError fun fault => .tls (.invalidPair fault)

end Acceptor
end HttpExchange.Tls
