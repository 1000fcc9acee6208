import HttpExchange.Text.Basic
import HttpExchange.Text.Utf8
import HttpExchange.Yaml.Cursor

/-!
Tags, which name the type of a value: written in full between angle brackets, or short, with a handle
that stands for the first part. An octet may be written as a percent sign and two digits.
-/
namespace HttpExchange.Yaml

/-- A tag as it is written: the handle, empty for a full tag, and the rest. -/
structure Tag where
  handle : String
  suffix : Bytes
  deriving Repr, DecidableEq

namespace Tag

/-- Characters of a tag; in some places commas and brackets are too. -/
def isTagChar (inBrackets : Bool) (x : Char) : Bool :=
  isNameChar x || ";/?:@&=+$.!~*'()".toList.contains x || (inBrackets && ",[]".toList.contains x)

/-- Reads a percent sign with two digits. -/
def octet? (c : Cursor) : Option (Nat × Cursor) :=
  match c.rest with
  | '%' :: x :: y :: _ => (Text.radix? 16 [x, y]).map fun n => (n, c.skipMany 3)
  | _ => none

/-- The number of octets that follow an octet which starts a character. -/
def tails? (octet : Nat) : Option Nat :=
  if octet < 0x80 then some 0
  else if octet / 0x20 = 6 then some 1
  else if octet / 0x10 = 14 then some 2
  else if octet / 8 = 30 then some 3
  else none

/-- Reads octets that continue a character. -/
def moreOctets? : Nat → Cursor → Bytes → Option (Bytes × Cursor)
  | 0, c, found => some (found, c)
  | k + 1, c, found => do
    let (n, c) ← octet? c
    if n / 0x40 = 2 then moreOctets? k c (.ofNat n :: found) else none

/-- Reads the characters of a tag, at most `fuel` of them, onto the octets found before, the last one
first. The octets of a character must all be written alike. -/
def octets? (inBrackets : Bool) : Nat → Cursor → Bytes → Option (Bytes × Cursor)
  | 0, _, _ => none
  | fuel + 1, c, found =>
    match c.rest with
    | [] => some (found.reverse, c)
    | x :: _ =>
      if x = '%' then do
        let (n, c) ← octet? c
        let (found, c) ← moreOctets? (← tails? n) c (.ofNat n :: found)
        octets? inBrackets fuel c found
      else if isTagChar inBrackets x then octets? inBrackets fuel c.skip (.ofNat x.toNat :: found)
      else some (found.reverse, c)

/-- What counts of octets that were read: those before the first zero. -/
def counted (octets : Bytes) : Bytes := octets.takeWhile (· != 0)

/-- Reads the characters of a tag, of which there must be one. -/
def nonempty? (inBrackets : Bool) (limit : Nat) (c : Cursor) : Option (Bytes × Cursor) := do
  let (octets, next) ← octets? inBrackets limit c []
  if octets.isEmpty then none else some (counted octets, next)

/-- Reads a tag after its exclamation mark. -/
def read? (inFlow : Bool) (limit : Nat) (c : Cursor) : Option (Tag × Cursor) := do
  let (tag, c) ←
    if c.stands '<' then do
      let (octets, c) ← nonempty? true limit c.skip
      if !c.stands '>' then none
      some (Tag.mk "" octets, c.skip)
    else do
      let (word, next) := c.takeWhile isNameChar
      if next.stands '!' then do
        let (octets, c) ← nonempty? false limit next.skip
        some (Tag.mk (.ofList ('!' :: word ++ ['!'])) octets, c)
      else do
        let (octets, c) ← octets? false limit c []
        let suffix := counted octets
        some (if suffix.isEmpty then Tag.mk "" (Utf8.encode "!") else Tag.mk "!" suffix, c)
  if c.isGap 0 ∨ (inFlow ∧ c.stands ',') then some (tag, c) else none

/-- Reads the handle and the first part of full tags that a directive gives. -/
def directive? (limit : Nat) (c : Cursor) : Option (String × Bytes × Cursor) := do
  if !c.stands '!' then none
  let (word, next) := c.skip.takeWhile isNameChar
  let (handle, c) ←
    if next.stands '!' then some ('!' :: word ++ ['!'], next.skip)
    else if word.isEmpty then some (['!'], next)
    else none
  if !c.standsAny isBlank then none
  let (octets, c) ← nonempty? true limit c.skipBlanks
  if c.isGap 0 then some (.ofList handle, octets, c) else none

/-- What handles stand for. -/
abbrev Handles := List (String × Bytes)

/-- The handles that need no directive. -/
def standardHandles : Handles := [("!", Utf8.encode "!"), ("!!", Utf8.encode "tag:yaml.org,2002:")]

/-- The full tag, if its handle is known. -/
def full? (handles : Handles) (tag : Tag) : Option Bytes :=
  if tag.handle.isEmpty then some tag.suffix else (handles.lookup tag.handle).map (· ++ tag.suffix)

end Tag
end HttpExchange.Yaml
