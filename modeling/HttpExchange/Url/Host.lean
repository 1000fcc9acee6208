import HttpExchange.Percent
import HttpExchange.Text.Basic
import HttpExchange.Url.Name

/-!
The hosts of URLs: names, addresses of four octets in all their spellings, and addresses of eight
groups in brackets.
-/
namespace HttpExchange

/-- Why a text is no URL. -/
inductive UrlFault
  | emptyHost
  | internationalName
  | invalidPort
  | fourPartAddress
  | bracketAddress
  | domainCharacter
  | relative
  deriving Repr, DecidableEq

/-- The fault in words. -/
def UrlFault.message : UrlFault → String
  | emptyHost => "empty host"
  | internationalName => "invalid international domain name"
  | invalidPort => "invalid port number"
  | fourPartAddress => "invalid IPv4 address"
  | bracketAddress => "invalid IPv6 address"
  | domainCharacter => "invalid domain character"
  | relative => "relative URL without a base"

/-- The machine that a URL names. -/
inductive Host
  | name (text : String)
  | address4 (number : Nat)
  | address6 (groups : List Nat)
  deriving Repr, DecidableEq

namespace Host
open Text (radix? splitWhere)

/-! ## Addresses of four parts -/

/-- A part in base 8, 10 or 16, told by how it starts; `0x` alone is zero. -/
def part? (cs : List Char) : Option Nat :=
  let (base, rest) := match cs with
    | '0' :: 'x' :: rest => (16, rest)
    | '0' :: 'X' :: rest => (16, rest)
    | '0' :: c :: rest => (8, c :: rest)
    | _ => (10, cs)
  if cs.isEmpty then none
  else if rest.isEmpty then some 0
  else radix? base rest

/-- The parts between dots, without an empty last one. -/
def dotParts (cs : List Char) : List (List Char) :=
  let parts := splitWhere (· == '.') cs
  if parts.length > 1 ∧ parts.getLast? = some [] then parts.dropLast else parts

/-- The last part is a number, so that the name must be an address. -/
def endsInNumber (cs : List Char) : Bool :=
  match (dotParts cs).getLast? with
  | none => false
  | some last => (!last.isEmpty && last.all Char.isDigit) || (part? last).isSome

/-- Reads up to four parts; the last one fills the octets that are left. -/
def address4? (cs : List Char) : Option Nat := do
  let numbers ← (dotParts cs).mapM part?
  let last ← numbers.getLast?
  let leading := numbers.dropLast
  if 3 < leading.length ∨ Nat.pow 256 (4 - leading.length) ≤ last ∨ leading.any (255 < ·) then none
  else some (leading.zipIdx.foldl (fun n (octet, i) => n + octet * Nat.pow 256 (3 - i)) last)

/-- The four octets in decimal. -/
def address4Text (n : Nat) : String :=
  ".".intercalate ([16777216, 65536, 256, 1].map fun unit => Text.decimal (n / unit % 256))

/-! ## Addresses of eight groups -/

/-- A group of at most four digits in base 16. -/
def group? (cs : List Char) : Option Nat := if 4 < cs.length then none else radix? 16 cs

/-- An octet in decimal without leading zeros. -/
def octet? (cs : List Char) : Option Nat :=
  if cs.isEmpty ∨ !cs.all Char.isDigit ∨ (1 < cs.length ∧ cs.head? = some '0') then none
  else (radix? 10 cs).filter (· < 256)

/-- Groups between colons, where the last two may be written as four octets. -/
def groups? (cs : List Char) : Option (List Nat) :=
  if cs.isEmpty then some []
  else
    let parts := splitWhere (· == ':') cs
    let last := (parts.getLast?).getD []
    if last.contains '.' then do
      let leading ← parts.dropLast.mapM group?
      match ← (splitWhere (· == '.') last).mapM octet? with
      | [a, b, c, d] => some (leading ++ [256 * a + b, 256 * c + d])
      | _ => none
    else parts.mapM group?

/-- The texts on both sides of the first double colon. -/
def doubleColon? : List Char → Option (List Char × List Char)
  | ':' :: ':' :: rest => some ([], rest)
  | c :: rest => (doubleColon? rest).map fun (before, after) => (c :: before, after)
  | [] => none

/-- Reads eight groups; a double colon stands for as many zeros as are missing. -/
def address6? (cs : List Char) : Option (List Nat) :=
  match doubleColon? cs with
  | none => (groups? cs).filter (·.length = 8)
  | some (before, after) => do
    if before.contains '.' then none
    let first ← groups? before
    let last ← groups? after
    if 8 ≤ first.length + last.length then none
    else some (first ++ List.replicate (8 - first.length - last.length) 0 ++ last)

/-- The start and length of the first longest run of zeros. -/
def longestZeros (groups : List Nat) : Nat × Nat :=
  (List.range groups.length).foldl (fun (best : Nat × Nat) i =>
    let run := ((groups.drop i).takeWhile (· = 0)).length
    if best.2 < run then (i, run) else best) (0, 0)

/-- Groups between colons, in base 16. -/
def groupsText (groups : List Nat) : String :=
  ":".intercalate (groups.map fun g => .ofList (Nat.toDigits 16 g))

/-- The groups in brackets, the longest run of two zeros or more as a double colon. -/
def address6Text (groups : List Nat) : String :=
  let (start, run) := longestZeros groups
  if 2 ≤ run then
    "[" ++ groupsText (groups.take start) ++ "::" ++ groupsText (groups.drop (start + run)) ++ "]"
  else "[" ++ groupsText groups ++ "]"

/-! ## Names -/

/-- ASCII characters that no host of a scheme without rules of its own holds. -/
def isForbiddenOpaque (c : Char) : Bool :=
  c.toNat == 0 || "\t\n\r #/:<>?@[\\]^|".toList.contains c

/-- Reads the host of a scheme with rules of its own. -/
def ofText (cs : List Char) : Except UrlFault Host :=
  match cs with
  | '[' :: rest =>
    if rest.getLast? = some ']' then
      match address6? rest.dropLast with
      | some groups => .ok (address6 groups)
      | none => .error .bracketAddress
    else .error .bracketAddress
  | _ =>
    match Url.Name.ascii? (Utf8.decodeLossy (Percent.decode (Utf8.encode (.ofList cs)))).toList with
    | none => .error .internationalName
    | some [] => .error .emptyHost
    | some domain =>
      if endsInNumber domain then
        match address4? domain with
        | some n => .ok (address4 n)
        | none => .error .fourPartAddress
      else .ok (name (.ofList domain))

/-- An ASCII control, or a character outside ASCII. -/
def isControl (c : Char) : Bool := c.toNat < 32 || 127 ≤ c.toNat

/-- Reads the host of any other scheme. -/
def opaqueOfText (cs : List Char) : Except UrlFault Host :=
  match cs with
  | '[' :: rest =>
    if rest.getLast? = some ']' then
      match address6? rest.dropLast with
      | some groups => .ok (address6 groups)
      | none => .error .bracketAddress
    else .error .bracketAddress
  | _ =>
    if cs.any isForbiddenOpaque then .error .domainCharacter
    else .ok (name (Percent.encodeWhere isControl (.ofList cs)))

/-- The host as it stands in a URL. -/
def toText : Host → String
  | .name text => text
  | .address4 n => address4Text n
  | .address6 groups => address6Text groups

end Host
end HttpExchange
