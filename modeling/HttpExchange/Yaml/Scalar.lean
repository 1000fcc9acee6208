import HttpExchange.Text.Basic
import HttpExchange.Yaml.Cursor

/-!
Scalars as they are written: plain, between quotes, and in blocks. Line ends inside are folded to a
space, several to all but the first, except in literal blocks.
-/
namespace HttpExchange.Yaml

/-- How a scalar is written. -/
inductive Style
  | plain | quoted | literal | folded
  deriving Repr, DecidableEq

namespace Scalar

/-- Space between two words: blanks on one line, or the first line end and those after it. Blanks and
later line ends stand the last one first. -/
structure Gap where
  blanks : List Char
  first : List Char
  later : List Char
  overLines : Bool

def Gap.none : Gap := ⟨[], [], [], false⟩

/-- The text found before, the last character first, with what is left of the space when the text goes
on: a lone line end is a space. -/
def Gap.onto (g : Gap) (found : List Char) : List Char :=
  if g.overLines then
    if g.first = ['\n'] then (if g.later.isEmpty then ' ' :: found else g.later ++ found)
    else g.later ++ g.first ++ found
  else g.blanks ++ found

/-- Reads the space before the next word, at most `fuel` characters of it. Where `least` is given,
a tab on a later line left of that column is refused. -/
def gap? (least : Option Int) : Nat → Cursor → Gap → Option (Gap × Cursor)
  | 0, _, _ => none
  | fuel + 1, c, g =>
    match c.rest with
    | x :: _ =>
      if isBlank x then
        if g.overLines then
          if x = '\t' ∧ least.any (fun n => (c.column : Int) < n) then none else gap? least fuel c.skip g
        else gap? least fuel c.skip { g with blanks := x :: g.blanks }
      else if isBreak x then
        let (text, c) := c.takeBreak
        if g.overLines then gap? least fuel c { g with later := text ++ g.later }
        else gap? least fuel c ⟨[], text, g.later, true⟩
      else some (g, c)
    | [] => some (g, c)

/-! ## Plain scalars -/

/-- A place in a plain scalar where it cannot go on: a colon before a gap, or a mark of a flow. -/
def endsPlain (inFlow : Bool) (c : Cursor) : Bool :=
  (c.stands ':' && c.isGap 1) || (inFlow && c.standsAny (",[]\x7b\x7d".toList.contains ·))

/-- A colon right before a mark of a flow. -/
def refusesPlain (inFlow : Bool) (c : Cursor) : Bool :=
  inFlow && c.stands ':' && (c.ahead? 1).any (",?[]\x7b\x7d".toList.contains ·)

/-- Reads a run of characters without gaps onto the text found before, the last character first, and the
space after that. -/
def plainWord? (inFlow : Bool) : Nat → Cursor → List Char → Gap → Option (List Char × Gap × Cursor)
  | 0, _, _, _ => none
  | fuel + 1, c, found, space =>
    match c.rest with
    | [] => some (found, space, c)
    | x :: _ =>
      if isBlank x ∨ isBreak x then some (found, space, c)
      else if refusesPlain inFlow c then none
      else if endsPlain inFlow c then some (found, space, c)
      else plainWord? inFlow fuel c.skip (x :: space.onto found) .none

/-- Reads a plain scalar in a block whose column is `indent`, in at most `limit` words of at most `limit`
characters; also says whether it ended on a new line. -/
def plain? (inFlow : Bool) (indent : Int) (limit : Nat) :
    Nat → Cursor → List Char → Gap → Option (List Char × Bool × Cursor)
  | 0, _, _, _ => none
  | fuel + 1, c, found, space =>
    if c.atDocumentMark ∨ c.stands '#' then some (found.reverse, space.overLines, c)
    else do
      let (found, space, next) ← plainWord? inFlow limit c found space
      if next.isGap 0 ∧ !next.rest.isEmpty then
        let (space, next) ← gap? (some (indent + 1)) limit next space
        if !inFlow ∧ (next.column : Int) < indent + 1 then some (found.reverse, space.overLines, next)
        else plain? inFlow indent limit fuel next found space
      else some (found.reverse, space.overLines, next)

/-! ## Scalars between quotes -/

/-- The characters that a backslash and one letter stand for. -/
def shortEscapes : List (Char × Nat) :=
  [('0', 0), ('a', 7), ('b', 8), ('t', 9), ('\t', 9), ('n', 10), ('v', 11), ('f', 12), ('r', 13), ('e', 27),
    (' ', 32), ('"', 34), ('/', 47), ('\\', 92), ('N', 0x85), ('_', 0xA0), ('L', 0x2028), ('P', 0x2029)]

/-- Reads what follows a backslash on the same line. -/
def escape? (c : Cursor) : Option (Char × Cursor) := do
  let x ← c.rest.head?
  let numbered (k : Nat) : Option (Char × Cursor) := do
    let digits := (c.rest.drop 1).take k
    if digits.length < k then none
    let n ← Text.radix? 16 digits
    if n.isValidChar then some (.ofNat n, c.skipMany (k + 1)) else none
  match x with
  | 'x' => numbered 2
  | 'u' => numbered 4
  | 'U' => numbered 8
  | x => return (.ofNat (← shortEscapes.lookup x), c.skip)

/-- Reads the text after an opening quote, up to and including the closing one, onto the text found
before, the last character first. -/
def quoted? (quote : Char) (limit : Nat) : Nat → Cursor → List Char → Option (List Char × Cursor)
  | 0, _, _ => none
  | fuel + 1, c, found =>
    if c.atDocumentMark then none
    else match c.rest with
      | [] => none
      | x :: _ =>
        if x = quote then
          if quote = '\'' ∧ c.ahead? 1 = some '\'' then quoted? quote limit fuel (c.skipMany 2) ('\'' :: found)
          else some (found.reverse, c.skip)
        else if isBlank x ∨ isBreak x then do
          let (space, next) ← gap? none limit c Gap.none
          quoted? quote limit fuel next (space.onto found)
        else if x = '\\' ∧ quote = '"' then
          if (c.ahead? 1).any isBreak then do
            let (space, next) ← gap? none limit c.skip.takeBreak.2 ⟨[], [], [], true⟩
            quoted? quote limit fuel next (space.onto found)
          else do
            let (y, next) ← escape? c.skip
            quoted? quote limit fuel next (y :: found)
        else quoted? quote limit fuel c.skip (x :: found)

/-! ## Block scalars -/

/-- What is done with the line ends at the end of a block. -/
inductive Chomp
  | strip | clip | keep
  deriving Repr, DecidableEq

/-- Reads a chomping mark. -/
def chomp? (c : Cursor) : Option (Chomp × Cursor) :=
  match c.rest with
  | '+' :: _ => some (.keep, c.skip)
  | '-' :: _ => some (.strip, c.skip)
  | _ => none

/-- Reads an indentation from 1 to 9. -/
def increment? (c : Cursor) : Option (Nat × Cursor) :=
  match c.rest with
  | x :: _ => if x.isDigit ∧ x ≠ '0' then some (x.toNat - 48, c.skip) else none
  | [] => none

/-- Reads the marks after the sign of a block, in either order. -/
def marks (c : Cursor) : Chomp × Option Nat × Cursor :=
  match chomp? c with
  | some (chomp, c) => match increment? c with
    | some (n, c) => (chomp, some n, c)
    | none => (chomp, none, c)
  | none => match increment? c with
    | some (n, c) => match chomp? c with
      | some (chomp, c) => (chomp, some n, c)
      | none => (.clip, some n, c)
    | none => (.clip, none, c)

/-- Passes empty lines and indentation; gives the line ends, the last one first, and the deepest column
seen. Until the block's column is known a tab cannot indent. -/
def emptyLines? (column : Option Nat) : Nat → Cursor → List Char → Nat → Option (List Char × Nat × Cursor)
  | 0, _, _, _ => none
  | fuel + 1, c, found, deepest =>
    let isIndent (x : Char) : Bool := x == ' '
    let spaces := match column with
      | some n => ((c.rest.take (n - c.column)).takeWhile isIndent).length
      | none => (c.rest.takeWhile isIndent).length
    let c := c.skipMany spaces
    let deepest := max deepest c.column
    if c.stands '\t' ∧ column.all (c.column < ·) then none
    else if c.standsAny isBreak then
      let (text, c) := c.takeBreak
      emptyLines? column fuel c (text ++ found) deepest
    else some (found, deepest, c)

/-- What was read of a block: the text, the line end before the place, and those of the empty lines after
it, each the last character first. -/
structure Lines where
  found : List Char
  lead : List Char
  later : List Char

/-- The text with the line ends before a line that goes on. In a folded block one between lines that do
not start with a blank is a space, or nothing where empty lines follow. -/
def Lines.joined (l : Lines) (folds : Bool) : List Char :=
  let lead := if folds ∧ l.lead = ['\n'] then (if l.later.isEmpty then [' '] else []) else l.lead
  l.later ++ lead ++ l.found

/-- Reads the lines of a block at its column. `wasBlank` says that the line before starts with a blank. -/
def blockLines? (folded : Bool) (column limit : Nat) : Nat → Cursor → Lines → Bool → Option (Lines × Cursor)
  | 0, _, _, _ => none
  | fuel + 1, c, l, wasBlank =>
    if c.column ≠ column ∨ c.rest.isEmpty then some (l, c)
    else
      let startsBlank := c.standsAny isBlank
      let joined := l.joined (folded && !wasBlank && !startsBlank)
      let (line, next) := c.takeWhile (!isBreak ·)
      let (lead, next) := next.takeBreak
      match emptyLines? (some column) limit next [] 0 with
      | none => none
      | some (later, _, next) =>
        blockLines? folded column limit fuel next ⟨line.reverse ++ joined, lead, later⟩ startsBlank

/-- Reads a block scalar after its sign, in a block whose column is `indent`. -/
def block? (folded : Bool) (indent : Int) (limit : Nat) (c : Cursor) : Option (List Char × Cursor) := do
  let (chomp, increment, c) := marks c
  let c := c.skipBlanks.skipComment
  if !c.atLineEnd then none
  let (_, c) := c.takeBreak
  let fixed := increment.map fun n => if 0 ≤ indent then indent.toNat + n else n
  let (empty, deepest, c) ← emptyLines? fixed limit c [] 0
  let column := fixed.getD (max (max deepest (indent + 1).toNat) 1)
  let (l, c) ← blockLines? folded column limit limit c ⟨[], [], empty⟩ false
  let ending := match chomp with
    | .strip => []
    | .clip => l.lead
    | .keep => l.later ++ l.lead
  return ((ending ++ l.found).reverse, c)

end Scalar
end HttpExchange.Yaml
