/-!
A place in a YAML text, with its line and column, and the classes of characters that structure it.
-/
namespace HttpExchange.Yaml

/-- A line end, alone or as the first half of CR LF. -/
def isBreak (c : Char) : Bool :=
  c == '\n' || c == '\r' || c.toNat == 0x85 || c.toNat == 0x2028 || c.toNat == 0x2029

/-- A space or a tab. -/
def isBlank (c : Char) : Bool := c == ' ' || c == '\t'

/-- A letter, a digit, a hyphen or a low line. -/
def isNameChar (c : Char) : Bool := c.isAlphanum || c == '_' || c == '-'

/-- The byte order mark. -/
def isOrderMark (c : Char) : Bool := c.toNat == 0xFEFF

/-- Characters that a text may hold. -/
def isAllowed (c : Char) : Bool :=
  let n := c.toNat
  n == 9 || n == 10 || n == 13 || (0x20 ≤ n && n ≤ 0x7E) || n == 0x85 || (0xA0 ≤ n && n ≤ 0xFFFD) ||
    0x10000 ≤ n

/-- The text from a place on, the number of octets before it, its line, and its column in characters. -/
structure Cursor where
  rest : List Char
  index : Nat
  line : Nat
  column : Nat

namespace Cursor

/-- The character `k` places ahead. -/
def ahead? (c : Cursor) (k : Nat) : Option Char := c.rest[k]?

/-- The next character is this one. -/
def stands (c : Cursor) (x : Char) : Bool := c.rest.head? == some x

/-- The next character is of class `p`. -/
def standsAny (c : Cursor) (p : Char → Bool) : Bool := c.rest.head?.any p

/-- The text ends or a character of class `p` stands `k` places ahead. -/
def endsOr (c : Cursor) (p : Char → Bool) (k : Nat) : Bool := (c.ahead? k).all p

/-- A blank, a line end or the end of the text, `k` places ahead. -/
def isGap (c : Cursor) (k : Nat) : Bool := c.endsOr (fun x => isBlank x || isBreak x) k

/-- A line end or the end of the text comes next. -/
def atLineEnd (c : Cursor) : Bool := c.endsOr isBreak 0

/-- Passes one character that is no line end. -/
def skip (c : Cursor) : Cursor :=
  match c.rest with
  | x :: rest => { c with rest, index := c.index + x.utf8Size, column := c.column + 1 }
  | [] => c

/-- Passes characters that are no line ends. -/
def skipMany (c : Cursor) : Nat → Cursor
  | 0 => c
  | k + 1 => c.skip.skipMany k

/-- Passes a line end and gives its text: a line feed, but for the two separators of lines and
paragraphs, which stay. -/
def takeBreak (c : Cursor) : List Char × Cursor :=
  let passed (rest : List Char) (octets : Nat) : Cursor :=
    { rest, index := c.index + octets, line := c.line + 1, column := 0 }
  match c.rest with
  | '\r' :: '\n' :: rest => (['\n'], passed rest 2)
  | x :: rest =>
    (if x.toNat == 0x2028 || x.toNat == 0x2029 then [x] else ['\n'], passed rest x.utf8Size)
  | [] => ([], c)

/-- Passes characters of class `p`, which holds no line ends, and gives them. -/
def takeWhile (c : Cursor) (p : Char → Bool) : List Char × Cursor :=
  let (taken, rest) := c.rest.span p
  (taken, { c with
    rest
    index := taken.foldl (fun n x => n + x.utf8Size) c.index
    column := c.column + taken.length })

def skipBlanks (c : Cursor) : Cursor := (c.takeWhile isBlank).2

def skipLine (c : Cursor) : Cursor := (c.takeWhile (!isBreak ·)).2

def skipComment (c : Cursor) : Cursor := if c.stands '#' then c.skipLine else c

/-- Three hyphens or three dots stand alone at the start of a line. -/
def atDocumentMark (c : Cursor) : Bool :=
  c.column == 0 && ("---".toList.isPrefixOf c.rest || "...".toList.isPrefixOf c.rest) && c.isGap 3

end Cursor
end HttpExchange.Yaml
