import HttpExchange.Yaml.Scalar
import HttpExchange.Yaml.Tag

/-!
A YAML text as tokens: scalars and marks, with the starts and ends of blocks told from indentation.
A scalar becomes a key when a colon follows it on its line.
-/
namespace HttpExchange.Yaml

/-- What a text is made of. -/
inductive Token
  | version (major minor : Nat)
  | tagDirective (handle : String) (start : Bytes)
  | documentStart | documentEnd
  | blockSequence | blockMapping | blockEnd
  | flowSequence | flowSequenceEnd
  | flowMapping | flowMappingEnd
  | blockEntry | flowEntry
  | key | value
  | alias (name : String)
  | anchor (name : String)
  | tag (tag : Tag)
  | scalar (style : Style) (text : String)
  deriving Repr, DecidableEq

/-- A place where a key may have started: whether it must be one, the number of its first token, and
where it stands. -/
structure KeyStart where
  isRequired : Bool
  token : Nat
  line : Nat
  index : Nat
  column : Nat

/-- A text half cut into tokens. `blockKey` is the start of a key in the innermost block, `flowKeys` holds
one for each open flow, the innermost first; `indent` is the column of the innermost block, -1 for none.
The tokens stand the last one first, with their number. No loop takes more steps than `limit`. -/
structure Scanner where
  cursor : Cursor
  limit : Nat
  indent : Int
  outer : List Int
  keyAllowed : Bool
  blockKey : Option KeyStart
  flowKeys : List (Option KeyStart)
  tokens : List Token
  count : Nat

namespace Scanner

/-- Inside a flow, indentation does not count. -/
def inFlow (s : Scanner) : Bool := !s.flowKeys.isEmpty

/-- The start of a key on the innermost level. -/
def key? (s : Scanner) : Option KeyStart :=
  match s.flowKeys with
  | [] => s.blockKey
  | k :: _ => k

/-- Sets the start of a key on the innermost level. -/
def setKey (s : Scanner) (k : Option KeyStart) : Scanner :=
  match s.flowKeys with
  | [] => { s with blockKey := k }
  | _ :: others => { s with flowKeys := k :: others }

def emit (s : Scanner) (t : Token) : Scanner := { s with tokens := t :: s.tokens, count := s.count + 1 }

/-- Adds a token in front of the one with number `i`. -/
def emitAt (s : Scanner) (i : Nat) (t : Token) : Scanner :=
  let after := s.count - i
  { s with tokens := s.tokens.take after ++ t :: s.tokens.drop after, count := s.count + 1 }

def moveTo (s : Scanner) (cursor : Cursor) : Scanner := { s with cursor }

def allowKey (s : Scanner) (keyAllowed : Bool) : Scanner := { s with keyAllowed }

/-- Passes blanks, comments and line ends, and a byte order mark at the start of a line; a tab only where
no key may start. -/
def toNextToken : Nat → Scanner → Scanner
  | 0, s => s
  | fuel + 1, s =>
    let c := if s.cursor.column = 0 ∧ s.cursor.standsAny isOrderMark then s.cursor.skip else s.cursor
    let c := (c.takeWhile fun x => x == ' ' || (x == '\t' && (s.inFlow || !s.keyAllowed))).2.skipComment
    if c.standsAny isBreak then
      toNextToken fuel { s with cursor := c.takeBreak.2, keyAllowed := s.keyAllowed || !s.inFlow }
    else s.moveTo c

/-- The start of a key is on a line before, or more than 1024 octets back. -/
def isStale (s : Scanner) (k : KeyStart) : Bool :=
  k.line < s.cursor.line || k.index + 1024 < s.cursor.index

/-- Forgets the starts of keys that are too far back; a key that had to be one is refused. In an outer
flow a key stays stale until that flow is the innermost again. -/
def dropStaleKeys? (s : Scanner) : Option Scanner :=
  if s.blockKey.any fun k => k.isRequired && s.isStale k then none
  else if s.key?.any s.isStale then some (s.setKey none)
  else some s

/-- Closes the blocks right of a column. -/
def unroll (column : Int) (s : Scanner) : Scanner :=
  if s.inFlow then s
  else
    let (closed, left) := (s.indent :: s.outer).span (column < ·)
    { s with
      tokens := List.replicate closed.length Token.blockEnd ++ s.tokens
      count := s.count + closed.length
      indent := left.headD (-1), outer := left.drop 1 }

/-- Opens a block at a column if it is right of the innermost one. -/
def roll (column : Nat) (place : Option Nat) (t : Token) (s : Scanner) : Scanner :=
  if s.inFlow ∨ (column : Int) ≤ s.indent then s
  else
    let s := { s with indent := column, outer := s.indent :: s.outer }
    match place with
    | some i => s.emitAt i t
    | none => s.emit t

/-- Forgets the start of a key; a key that had to be one is refused. -/
def dropKey? (s : Scanner) : Option Scanner :=
  if s.key?.any KeyStart.isRequired then none else some (s.setKey none)

/-- Notes that a key may start here. It must be one where it stands at the column of its block. -/
def saveKey? (s : Scanner) : Option Scanner :=
  if s.keyAllowed then do
    let s ← s.dropKey?
    let c := s.cursor
    return s.setKey (some ⟨!s.inFlow && s.indent == (c.column : Int), s.count, c.line, c.index, c.column⟩)
  else some s

/-- The mark of a document, or anything else that ends all blocks. -/
def endBlocks? (s : Scanner) : Option Scanner := do
  let s ← (s.unroll (-1)).dropKey?
  return s.allowKey false

/-! ## Tokens of each kind -/

/-- Reads a number of at most nine digits. -/
def number? (c : Cursor) : Option (Nat × Cursor) :=
  let (digits, next) := c.takeWhile Char.isDigit
  if 9 < digits.length then none else (Text.radix? 10 digits).map fun n => (n, next)

/-- Reads a directive: the version of the language, or a handle of tags. -/
def directive? (s : Scanner) : Option Scanner := do
  let s ← s.endBlocks?
  let (name, c) := s.cursor.skip.takeWhile isNameChar
  if !c.isGap 0 then none
  let (token, c) ← match String.ofList name with
    | "YAML" => do
      let (major, c) ← number? c.skipBlanks
      if !c.stands '.' then none
      let (minor, c) ← number? c.skip
      some (Token.version major minor, c)
    | "TAG" => do
      let (handle, start, c) ← Tag.directive? s.limit c.skipBlanks
      some (Token.tagDirective handle start, c)
    | _ => none
  let c := c.skipBlanks.skipComment
  if c.atLineEnd then some ((s.emit token).moveTo c.takeBreak.2) else none

/-- Reads the name of an anchor or alias. -/
def name? (c : Cursor) : Option (String × Cursor) :=
  let (name, next) := c.takeWhile isNameChar
  if name.isEmpty ∨ !(next.isGap 0 ∨ next.standsAny ("?:,]\x7d%@\x60".toList.contains ·)) then none
  else some (.ofList name, next)

/-- A colon: the scalar before it becomes a key, or the key is empty. -/
def value? (s : Scanner) : Option Scanner :=
  let pass (s : Scanner) : Scanner := (s.emit .value).moveTo s.cursor.skip
  match s.key? with
  | some k =>
    let s := ((s.setKey none).emitAt k.token .key).roll k.column (some k.token) .blockMapping
    some (pass (s.allowKey false))
  | none =>
    if s.inFlow then some (pass (s.allowKey false))
    else if s.keyAllowed then some (pass ((s.roll s.cursor.column none .blockMapping).allowKey true))
    else none

/-- A mark that stands for itself: a key may start after it or not. -/
def mark (s : Scanner) (t : Token) (keyAllowed : Bool) : Scanner :=
  ((s.emit t).allowKey keyAllowed).moveTo s.cursor.skip

/-- An entry of a block sequence, or a key that is marked as one. -/
def blockMark? (s : Scanner) (block mark : Token) (keyAllowed : Bool) : Option Scanner := do
  if !s.inFlow ∧ !s.keyAllowed then none
  let s ← (s.roll s.cursor.column none block).dropKey?
  return s.mark mark keyAllowed

def openFlow? (s : Scanner) (t : Token) : Option Scanner := do
  let s ← s.saveKey?
  return { s with flowKeys := none :: s.flowKeys }.mark t true

def closeFlow? (s : Scanner) (t : Token) : Option Scanner := do
  let s ← s.dropKey?
  return { s with flowKeys := s.flowKeys.drop 1 }.mark t false

/-- Takes a token before a key can start, after which the place moves on. -/
def property? (s : Scanner) (read : Option (Token × Cursor)) : Option Scanner := do
  let s ← s.saveKey?
  let (token, c) ← read
  return ((s.emit token).allowKey false).moveTo c

/-- Takes a scalar, after which the place moves on. -/
def scalar? (s : Scanner) (style : Style) (keyAllowed : Bool) (read : Option (List Char × Cursor)) :
    Option Scanner := do
  let (text, c) ← read
  return ((s.emit (.scalar style (.ofList text))).allowKey keyAllowed).moveTo c

/-- A plain scalar can start here. -/
def startsPlain (s : Scanner) (x : Char) : Bool :=
  (!isBlank x && !"-?:,[]\x7b\x7d#&*!|>'\"%@\x60".toList.contains x) ||
    (x == '-' && !(s.cursor.endsOr isBlank 1)) ||
    (!s.inFlow && (x == '?' || x == ':') && !s.cursor.isGap 1)

/-- Reads the next token, of which `x` is the first character. -/
def next? (s : Scanner) (x : Char) : Option Scanner :=
  let c := s.cursor
  if x = '%' ∧ c.column = 0 then s.directive?
  else if c.atDocumentMark then do
    let s ← s.endBlocks?
    return (s.emit (if x = '-' then .documentStart else .documentEnd)).moveTo (c.skipMany 3)
  else if x = '[' then s.openFlow? .flowSequence
  else if x = '\x7b' then s.openFlow? .flowMapping
  else if x = ']' then s.closeFlow? .flowSequenceEnd
  else if x = '\x7d' then s.closeFlow? .flowMappingEnd
  else if x = ',' then do
    let s ← s.dropKey?
    return s.mark .flowEntry true
  else if x = '-' ∧ c.isGap 1 then s.blockMark? .blockSequence .blockEntry true
  else if x = '?' ∧ (s.inFlow ∨ c.isGap 1) then s.blockMark? .blockMapping .key (!s.inFlow)
  else if x = ':' ∧ (s.inFlow ∨ c.isGap 1) then s.value?
  else if x = '*' then s.property? ((name? c.skip).map fun (name, c) => (.alias name, c))
  else if x = '&' then s.property? ((name? c.skip).map fun (name, c) => (.anchor name, c))
  else if x = '!' then s.property? ((Tag.read? s.inFlow s.limit c.skip).map fun (tag, c) => (.tag tag, c))
  else if (x = '|' ∨ x = '>') ∧ !s.inFlow then do
    let s ← s.dropKey?
    s.scalar? (if x = '|' then .literal else .folded) true (Scalar.block? (x == '>') s.indent s.limit c.skip)
  else if x = '\'' ∨ x = '"' then do
    let s ← s.saveKey?
    s.scalar? .quoted false (Scalar.quoted? x s.limit s.limit c.skip [])
  else if s.startsPlain x then do
    let s ← s.saveKey?
    let (text, onNewLine, c) ← Scalar.plain? s.inFlow s.indent s.limit s.limit c [] .none
    s.scalar? .plain onNewLine (some (text, c))
  else none

/-- Reads tokens to the end of the text, at most `fuel` of them. -/
def run? : Nat → Scanner → Option (List Token)
  | 0, _ => none
  | fuel + 1, s =>
    match (s.toNextToken s.limit).dropStaleKeys? with
    | none => none
    | some s =>
      match s.cursor.rest with
      | [] => s.endBlocks?.map fun s => s.tokens.reverse
      | x :: _ => match (s.unroll s.cursor.column).next? x with
        | some s => run? fuel s
        | none => none

end Scanner

/-- The tokens of a text. -/
def Token.ofText? (text : String) : Option (List Token) :=
  let cs := text.toList
  let limit := cs.length + 2
  if cs.all isAllowed then Scanner.run? limit ⟨⟨cs, 0, 0, 0⟩, limit, -1, [], true, none, [], [], 0⟩ else none

end HttpExchange.Yaml
