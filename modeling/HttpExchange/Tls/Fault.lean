import HttpExchange.Text.Quoted
import HttpExchange.Tls.Certificate
import HttpExchange.Tls.Pem

/-!
Why a secure connection cannot be set up, and the words for each cause.
-/
namespace HttpExchange

/-- Why a certificate and a key do not make a pair. -/
inductive PairFault
  | noCertificate
  | unusableCertificate (fault : Tls.Certificate.Fault)
  | unusableKey
  | mismatch
  deriving Repr, DecidableEq

/-- Why a secure connection cannot be set up. -/
inductive TlsFault
  | unknownContext (key : String)
  | invalidServerName (host : String)
  | untrusted (host : String)
  | invalidPem (fault : Tls.Pem.Fault)
  | noCertificate
  | unusableCertificate (fault : Tls.Certificate.Fault)
  | certificateFileMissing (path : String)
  | keyFileMissing (path : String)
  | noPrivateKey (path : String)
  | invalidPair (fault : PairFault)
  | described (reason : String)
  deriving Repr, DecidableEq

/-- The reason in words. -/
def PairFault.message : PairFault → String
  | noCertificate => "peer sent no certificates"
  | unusableCertificate fault => fault.message
  | unusableKey => "unexpected error: failed to parse private key as RSA, ECDSA, or EdDSA"
  | mismatch => "keys may not be consistent: KeyMismatch"

/-- The reason in words. -/
def TlsFault.message : TlsFault → String
  | unknownContext key => "unknown TLS context " ++ Text.quoted key
  | invalidServerName host => "invalid server name " ++ Text.quoted host ++ ": invalid dns name"
  | untrusted host => "handshake with " ++ host ++ " failed: invalid peer certificate: UnknownIssuer"
  | invalidPem fault => "invalid PEM data: " ++ fault.message
  | noCertificate => "no certificate found in PEM data"
  | unusableCertificate fault => "unusable certificate: " ++ fault.message
  | certificateFileMissing path => "certificate file not found: " ++ path
  | keyFileMissing path => "private key file not found: " ++ path
  | noPrivateKey path => "no private key in " ++ path
  | invalidPair fault => "invalid certificate/key pair: " ++ fault.message
  | described reason => reason

end HttpExchange
