import HttpExchange.Regex.Pattern

/-!
What follows a backslash in a pattern: characters by name or number, named classes and places.
-/
namespace HttpExchange.Regex

/-- Settings that a pattern can change as it goes on. -/
structure Flags where
  ignoreCase : Bool
  multiLine : Bool
  dotAll : Bool
  swapGreed : Bool
  unicode : Bool
  spaced : Bool
  crlf : Bool
  deriving Repr, DecidableEq

/-- The text after white space and comments, where a pattern is spaced out. -/
def skipSpace (inComment : Bool) : List Char → List Char
  | [] => []
  | c :: rest =>
    if inComment then skipSpace (c != '\n') rest
    else if Text.isBlank c then skipSpace false rest
    else if c = '#' then skipSpace true rest
    else c :: rest

theorem skipSpace_length_le (inComment : Bool) (cs : List Char) :
    (skipSpace inComment cs).length ≤ cs.length := by
  induction cs generalizing inComment with
  | nil => simp [skipSpace]
  | cons c rest ih =>
    unfold skipSpace
    split
    · exact Nat.le_succ_of_le (ih _)
    · split
      · exact Nat.le_succ_of_le (ih _)
      · split
        · exact Nat.le_succ_of_le (ih _)
        · simp

namespace Flags

/-- The text at the next thing that counts. -/
def skip (flags : Flags) (cs : List Char) : List Char := if flags.spaced then skipSpace false cs else cs

theorem skip_length_le (flags : Flags) (cs : List Char) : (flags.skip cs).length ≤ cs.length := by
  unfold skip
  split
  · exact skipSpace_length_le false cs
  · simp

/-- Takes characters of a class, with the white space around each, at most `count` of them. -/
def takeWhere (flags : Flags) (p : Char → Bool) (cs : List Char) (count : Nat) : List Char × List Char :=
  match count, flags.skip cs with
  | 0, rest => ([], rest)
  | _ + 1, [] => ([], [])
  | count + 1, c :: rest =>
    if p c then
      let (taken, rest) := flags.takeWhere p rest count
      (c :: taken, rest)
    else ([], c :: rest)

/-- The text up to a closing brace without the white space in it, and the text behind that brace. -/
def braced? (flags : Flags) (cs : List Char) : Option (List Char × List Char) :=
  match flags.takeWhere (· != '\x7d') cs cs.length with
  | (body, _ :: rest) => some (body, rest)
  | _ => none

/-- The set, with what differs from a member only in case if case is ignored: by Unicode's folding, or
by ASCII's. -/
def fold (flags : Flags) (s : CharSet) : CharSet :=
  if !flags.ignoreCase then s
  else if flags.unicode then Text.foldedRuns s
  else .asciiFolded s

/-- The set, or its complement. Without Unicode a complement holds bytes that are no character, so
there is none. -/
def negatedIf? (flags : Flags) (negate : Bool) (s : CharSet) : Option CharSet :=
  if !negate then some s
  else if flags.unicode then some (Text.Runs.complement s)
  else none

/-- The characters that fold like one, where that is more than the character. -/
def foldedChar? (flags : Flags) (c : Char) : Option CharSet :=
  let alike :=
    if !flags.ignoreCase then []
    else if flags.unicode then Text.foldingAlike c.toNat
    else if c.isAlpha then [c.toLower.toNat, c.toUpper.toNat]
    else []
  if alike.length ≤ 1 then none else some (.ofList (alike.map fun n => (n, n)))

end Flags

/-- A single thing to match. -/
inductive Atom
  | char (c : Char)
  | chars (s : CharSet)
  | place (k : Look)

namespace Atom

/-- The character that digits in base 16 number, unless that is a surrogate or too large. Two digits
without Unicode are a byte, which is a character only in ASCII. -/
def ofDigits? (digits : List Char) (isByte : Bool) : Option Atom := do
  let n ← Text.radix? 16 digits
  if n.isValidChar ∧ (n < 128 ∨ !isByte) then some (char (.ofNat n)) else none

/-- A character number: digits in braces, or exactly `count` of them. -/
def hex? (flags : Flags) (count : Nat) (cs : List Char) : Option (Atom × List Char) :=
  match flags.skip cs with
  | '\x7b' :: rest => do
    let (digits, rest) ← flags.braced? rest
    return (← ofDigits? digits false, rest)
  | rest =>
    let (digits, rest) := flags.takeWhere (fun _ => true) rest count
    if digits.length < count then none
    else (ofDigits? digits (count = 2 && !flags.unicode)).map fun atom => (atom, rest)

/-- The place of a sign in a text, and the text before it and after it. -/
def cutAt? (sign : List Char) (cs : List Char) : Option (List Char × List Char) :=
  match cs with
  | [] => none
  | c :: rest =>
    if sign.isPrefixOf (c :: rest) then some ([], (c :: rest).drop sign.length)
    else (cutAt? sign rest).map fun (before, after) => (c :: before, after)

/-- The characters with a property, by its name, or by its name and a value with a sign between them. -/
def ofProperty? (body : List Char) : Option CharSet :=
  match cutAt? ['!', '='] body <|> cutAt? [':'] body <|> cutAt? ['='] body with
  | some (name, value) => Text.Property.ofNameAndValue? (.ofList name) (.ofList value)
  | none => Text.Property.ofName? (.ofList body)

/-- A property, of one letter or in braces, or the lack of it. Properties are Unicode's. -/
def property? (flags : Flags) (negate : Bool) (cs : List Char) : Option (Atom × List Char) := do
  let (body, rest) ← match flags.skip cs with
    | [] => none
    | '\x7b' :: rest => flags.braced? rest
    | c :: rest => if c = '\\' then none else some ([c], rest)
  if !flags.unicode then none
  let s ← ofProperty? body
  return (chars (← flags.negatedIf? negate (flags.fold s)), rest)

/-- The kinds of word places that have a name in braces. -/
def namedPlaces : List (String × (Bool → Look)) :=
  [("start", .wordStart), ("end", .wordEnd), ("start-half", .wordStartHalf), ("end-half", .wordEndHalf)]

/-- A letter of such a name. -/
def isPlaceLetter (c : Char) : Bool := c.isAlpha || c == '-'

/-- A word boundary, or the kind of it that is named in braces. Braces that hold no name say how often
the boundary is looked for. -/
def wordPlace? (flags : Flags) (cs : List Char) : Option (Atom × List Char) :=
  match cs with
  | '\x7b' :: rest =>
    match flags.takeWhere isPlaceLetter rest rest.length with
    | ([], _) => some (place (.wordBoundary flags.unicode), cs)
    | (name, '\x7d' :: rest) => (namedPlaces.lookup (.ofList name)).map fun k => (place (k flags.unicode), rest)
    | _ => none
  | _ => some (place (.wordBoundary flags.unicode), cs)

/-- Marks that may follow a backslash to stand for themselves. -/
def isMark (c : Char) : Bool := c.toNat < 128 && !c.isAlphanum && c != '<' && c != '>'

/-- Reads what follows a backslash. -/
def escaped? (flags : Flags) : List Char → Option (Atom × List Char)
  | [] => none
  | c :: rest =>
    let complement (s : CharSet) : Option (Atom × List Char) :=
      (flags.negatedIf? true s).map fun s => (chars s, rest)
    match c with
    | 'x' => hex? flags 2 rest
    | 'u' => hex? flags 4 rest
    | 'U' => hex? flags 8 rest
    | 'p' => property? flags false rest
    | 'P' => property? flags true rest
    | 'd' => some (chars (.digit flags.unicode), rest)
    | 'D' => complement (.digit flags.unicode)
    | 's' => some (chars (.space flags.unicode), rest)
    | 'S' => complement (.space flags.unicode)
    | 'w' => some (chars (.word flags.unicode), rest)
    | 'W' => complement (.word flags.unicode)
    | 'a' => some (char '\x07', rest)
    | 'f' => some (char '\x0c', rest)
    | 't' => some (char '\t', rest)
    | 'n' => some (char '\n', rest)
    | 'r' => some (char '\r', rest)
    | 'v' => some (char '\x0b', rest)
    | 'A' => some (place .textStart, rest)
    | 'z' => some (place .textEnd, rest)
    | 'b' => wordPlace? flags rest
    | 'B' => some (place (.noWordBoundary flags.unicode), rest)
    | '<' => some (place (.wordStart flags.unicode), rest)
    | '>' => some (place (.wordEnd flags.unicode), rest)
    | c => if isMark c then some (char c, rest) else none

/-- The atom as a pattern. -/
def toPattern (flags : Flags) : Atom → Pattern
  | char c => match flags.foldedChar? c with
    | some s => .set s
    | none => .text [c]
  | chars s => .ofSet s
  | place k => .look k

end Atom
end HttpExchange.Regex
