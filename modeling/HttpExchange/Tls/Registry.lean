import HttpExchange.Failure
import HttpExchange.Tls.Certificate

/-!
Certificates that clients trust, under names. One name is known from the start and trusts what the web
trusts; others are made from files of certificates.
-/
namespace HttpExchange.Tls

/-- What a client trusts: certificates of its own, and perhaps those that the web trusts. -/
structure TrustStore where
  certificates : List Certificate
  webRoots : Bool
  deriving Repr, DecidableEq

/-- Stores by name. -/
structure Registry where
  stores : List (String × TrustStore)
  deriving Repr, DecidableEq

namespace Registry

/-- The name that is known from the start. -/
def defaultName : String := "default"

/-- The store of the web under the default name. -/
def standard : Registry := ⟨[(defaultName, ⟨[], true⟩)]⟩

def store? (r : Registry) (name : String) : Option TrustStore := (r.stores.find? (·.1 == name)).map Prod.snd

def contains (r : Registry) (name : String) : Bool := r.stores.any (·.1 == name)

/-- Puts a store under a name, in place of an earlier one. -/
def register (r : Registry) (name : String) (store : TrustStore) : Registry :=
  ⟨r.stores.filter (·.1 != name) ++ [(name, store)]⟩

/-- The store of a name, or the fault of not knowing it. -/
def connector (r : Registry) (name : String) : Except Failure TrustStore :=
  match r.store? name with
  | some store => .ok store
  | none => .error (.tls (.unknownContext name))

/-- The certificates in a file, all of which must be well formed. -/
def readCertificates (pem : Bytes) : Except TlsFault (List Certificate) :=
  match Pem.certificates pem with
  | .error fault => .error (.invalidPem fault)
  | .ok [] => .error .noCertificate
  | .ok contents =>
    (contents.mapM Certificate.ofTrustedOctets).mapError .unusableCertificate

/-- Registers a store of the certificates in a file; the number is theirs. A fault leaves the registry
as it is. -/
def registerPem (r : Registry) (name : String) (pem : Bytes) (webRoots : Bool) : Except Failure (Nat × Registry) :=
  match readCertificates pem with
  | .error fault => .error (.tls fault)
  | .ok certificates => .ok (certificates.length, r.register name ⟨certificates, webRoots⟩)

end Registry
end HttpExchange.Tls
