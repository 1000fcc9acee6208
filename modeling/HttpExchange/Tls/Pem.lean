import HttpExchange.Text.Quoted
import HttpExchange.Text.Utf8
import HttpExchange.Tls.Base64

/-!
Files of sections: each is base 64 between a line that begins it and a line that ends it, and is told
by the name in both. What stands outside of sections, and sections of other names, are passed over.
-/
namespace HttpExchange.Tls.Pem

/-- The kinds of section that are read. -/
inductive Label
  | certificate | publicKey | rsaKey | privateKey | curveKey | revocations | signingRequest | helloKeys
  deriving Repr, DecidableEq

/-- The kind of a name. -/
def Label.ofName? (name : Bytes) : Option Label :=
  [("CERTIFICATE", certificate), ("PUBLIC KEY", publicKey), ("RSA PRIVATE KEY", rsaKey),
    ("PRIVATE KEY", privateKey), ("EC PRIVATE KEY", curveKey), ("X509 CRL", revocations),
    ("CERTIFICATE REQUEST", signingRequest), ("ECHCONFIG", helloKeys)].findSome? fun (text, label) =>
      if Utf8.encode text = name then some label else none

/-- A section with its content decoded. -/
structure Section where
  label : Label
  content : Bytes
  deriving Repr, DecidableEq

/-- Why a file cannot be read on. -/
inductive Fault
  | illegalStart (line : Bytes)
  | endMissing (name : Bytes)
  | base64 (fault : Base64.Fault)
  deriving Repr, DecidableEq

/-- The fault in words. -/
def Fault.message : Fault → String
  | illegalStart line => "illegal section start: " ++ Text.quoted (Utf8.decodeLossy line)
  | endMissing name => "section end " ++ Text.quoted (Utf8.decodeLossy name) ++ " missing"
  | base64 fault => fault.message

/-- The lines of a text, each with the CR or LF that ends it. -/
def lines (text : Bytes) : List Bytes :=
  text.foldr (fun octet lines =>
    if octet = 10 ∨ octet = 13 then [octet] :: lines
    else match lines with
      | [] => [[octet]]
      | line :: rest => (octet :: line) :: rest) []

/-- How the first line of a section begins. -/
def opening : Bytes := Utf8.encode "-----BEGIN "

def dashes : Bytes := List.replicate 5 45

/-- The last line of a section of a name. -/
def closing (name : Bytes) : Bytes := Utf8.encode "-----END " ++ name ++ dashes

/-- The name in the first line of a section, which ends in five dashes, with white space between and
after them allowed. -/
def openedName? (line : Bytes) : Option Bytes :=
  let tail := line.reverse.takeWhile fun octet => octet == 45 || octet == 10 || octet == 13 || octet == 32
  if tail.count 45 = 5 then
    let behind := tail.length - (tail.reverse.takeWhile (· ≠ 45)).length
    some ((line.take (line.length - behind)).drop opening.length)
  else none

/-- The sections of lines, up to the first fault. The arguments hold the name of the section that is
open, and what was collected in it. -/
def collect : Option Bytes → Bytes → List Bytes → List Section × Option Fault
  | none, _, [] => ([], none)
  | some name, _, [] => ([], some (.endMissing name))
  | name, collected, line :: rest =>
    if opening.isPrefixOf line then
      match openedName? line with
      | none => ([], some (.illegalStart line))
      | some name => collect (some name) collected rest
    else match name with
      | none => collect none collected rest
      | some name =>
        if (closing name).isPrefixOf line then
          match Label.ofName? name with
          | none => collect none [] rest
          | some label =>
            match Base64.decode collected with
            | .error fault => ([], some (.base64 fault))
            | .ok content =>
              let (sections, fault) := collect none [] rest
              (⟨label, content⟩ :: sections, fault)
        else collect (some name) (collected ++ line) rest

/-- The sections of a file, up to the first fault. -/
def sections (text : Bytes) : List Section × Option Fault := collect none [] (lines text)

/-- The contents of all certificates. -/
def certificates (text : Bytes) : Except Fault (List Bytes) :=
  match sections text with
  | (_, some fault) => .error fault
  | (sections, none) =>
    .ok (sections.filterMap fun s => if s.label = .certificate then some s.content else none)

def Section.isPrivateKey (s : Section) : Bool :=
  s.label = .rsaKey || s.label = .privateKey || s.label = .curveKey

/-- The first private key. -/
def privateKey? (text : Bytes) : Except Fault (Option Section) :=
  let (sections, fault) := sections text
  match sections.find? Section.isPrivateKey, fault with
  | some key, _ => .ok (some key)
  | none, some fault => .error fault
  | none, none => .ok none

end HttpExchange.Tls.Pem
