import HttpExchange.Regex.Bracket
import HttpExchange.Text.Basic

/-!
Patterns read from their text: alternatives of sequences, groups with names and settings, and loops.
-/
namespace HttpExchange.Regex

/-- Why a text is no pattern. -/
inductive Fault
  | unreadable
  | tooLarge
  deriving Repr, DecidableEq

/-- An element of a sequence and its height: a pattern, or a change of settings, which cannot be
looped. -/
structure Item where
  pattern? : Option Pattern
  height : Nat

/-- A pattern and its height. -/
structure Tree where
  pattern : Pattern
  height : Nat

/-- An open group: its number if it is one that captures, the settings to return to, the alternatives
and the elements before it, the last one first. -/
structure OpenGroup where
  index : Option Nat
  outer : Flags
  alternatives : List Tree
  items : List Item

/-- How far a pattern is read. -/
structure Reading where
  rest : List Char
  flags : Flags
  groups : Nat
  names : List (List Char)
  alternatives : List Tree
  items : List Item
  stack : List OpenGroup

namespace Reading

/-- The height of several things side by side, or of one alone. -/
def heightOf (heights : List Nat) : Nat :=
  match heights with
  | [height] => height
  | _ => heights.foldl (fun most height => max most (height + 1)) 0

/-- A sequence of elements, given the last one first. -/
def sequence (items : List Item) : Tree :=
  ⟨.ofSequence (items.reverse.filterMap Item.pattern?), heightOf (items.map Item.height)⟩

/-- The pattern read on this level. -/
def whole (r : Reading) : Tree :=
  match r.alternatives with
  | [] => sequence r.items
  | _ =>
    let trees := (sequence r.items :: r.alternatives).reverse
    ⟨.ofChoice (trees.map Tree.pattern), heightOf (trees.map Tree.height)⟩

/-- Adds an element, unless it is too high. -/
def add? (r : Reading) (p : Pattern) (height : Nat) (rest : List Char) : Option Reading :=
  if heightLimit < height then none else some { r with rest, items := ⟨p, height⟩ :: r.items }

/-- Loops the last element. -/
def loop? (r : Reading) (least : Nat) (most : Option Nat) (lazily : Bool) (rest : List Char) : Option Reading :=
  match r.items with
  | ⟨some p, height⟩ :: before =>
    ({ r with items := before } : Reading).add?
      (.looped (lazily == r.flags.swapGreed) least most p) (height + 1) rest
  | _ => none

/-- The greatest number of times that a loop can name. -/
def countLimit : Nat := 4294967295

/-- A number with white space around it. -/
def count? (flags : Flags) (cs : List Char) : Option (Nat × List Char) :=
  let start := cs.dropWhile Text.isBlank
  match start with
  | c :: _ =>
    if c.isDigit then
      let (digits, rest) := flags.takeWhere Char.isDigit start start.length
      ((Text.radix? 10 digits).filter (· ≤ countLimit)).map fun n =>
        (n, flags.skip (rest.dropWhile Text.isBlank))
    else none
  | [] => none

/-- The bounds of a loop after its opening brace, and the text after the closing one. -/
def bounds? (flags : Flags) (cs : List Char) : Option (Nat × Option Nat × List Char) := do
  let (least, rest) ← count? flags (flags.skip cs)
  match rest with
  | '\x7d' :: rest => some (least, some least, rest)
  | ',' :: rest =>
    match flags.skip rest with
    | '\x7d' :: rest => some (least, none, rest)
    | rest => do
      let (most, rest) ← count? flags rest
      match rest with
      | '\x7d' :: rest => if least ≤ most then some (least, some most, rest) else none
      | _ => none
  | _ => none

/-- Changes one setting. -/
def setFlag? (flags : Flags) (on : Bool) : Char → Option Flags
  | 'i' => some { flags with ignoreCase := on }
  | 'm' => some { flags with multiLine := on }
  | 's' => some { flags with dotAll := on }
  | 'U' => some { flags with swapGreed := on }
  | 'u' => some { flags with unicode := on }
  | 'x' => some { flags with spaced := on }
  | 'R' => some { flags with crlf := on }
  | _ => none

/-- Reads settings up to a colon or a closing bracket: no letter and no hyphen twice, no hyphen last.
Gives the settings, whether there was one, and the end mark with what follows it. -/
def flags? (seen : List Char) (on : Bool) (flags : Flags) : List Char → Option (Flags × Bool × List Char)
  | [] => none
  | c :: rest =>
    if c = ':' ∨ c = ')' then
      if seen.head? = some '-' then none else some (flags, !seen.isEmpty, c :: rest)
    else if seen.contains c then none
    else if c = '-' then flags? (c :: seen) false flags rest
    else match setFlag? flags on c with
      | none => none
      | some flags => flags? (c :: seen) on flags rest

/-- The characters that begin a name, and the numbers that can go on with it. -/
def nameLetters : Text.Runs := Text.Property.alphabetic
def nameNumbers : Text.Runs := Text.categories ["nd", "nl", "no"]

def startsName (c : Char) : Bool := c == '_' || nameLetters.contains c.toNat

def continuesName (c : Char) : Bool :=
  startsName c || c == '.' || c == '[' || c == ']' || nameNumbers.contains c.toNat

/-- Reads a name up to its closing angle bracket. -/
def name? (cs : List Char) : Option (List Char × List Char) :=
  match cs.span (· != '>') with
  | (first :: more, _ :: rest) =>
    if startsName first ∧ more.all continuesName then some (first :: more, rest) else none
  | _ => none

/-- Opens a group. -/
def openGroup? (r : Reading) (index : Option Nat) (flags : Flags) (rest : List Char) : Option Reading :=
  if heightLimit ≤ r.stack.length then none
  else some { r with
    rest, flags, alternatives := [], items := []
    groups := index.getD r.groups
    stack := ⟨index, r.flags, r.alternatives, r.items⟩ :: r.stack }

/-- Opens a group that captures under a name. -/
def openNamed? (r : Reading) (cs : List Char) : Option Reading := do
  let (name, rest) ← name? cs
  if r.names.contains name then none
  else ({ r with names := name :: r.names } : Reading).openGroup? (some (r.groups + 1)) r.flags rest

/-- Reads what follows an opening bracket. -/
def opening? (r : Reading) (cs : List Char) : Option Reading :=
  match r.flags.skip cs with
  | '?' :: '=' :: _ => none
  | '?' :: '!' :: _ => none
  | '?' :: '<' :: '=' :: _ => none
  | '?' :: '<' :: '!' :: _ => none
  | '?' :: 'P' :: '<' :: rest => r.openNamed? rest
  | '?' :: '<' :: rest => r.openNamed? rest
  | '?' :: rest => do
    let (flags, any, rest) ← flags? [] true r.flags rest
    match rest with
    | ':' :: rest => r.openGroup? none flags rest
    | _ => if any then some { r with rest := rest.drop 1, flags, items := ⟨none, 0⟩ :: r.items } else none
  | rest => r.openGroup? (some (r.groups + 1)) r.flags rest

/-- Closes the innermost group. -/
def closing? (r : Reading) (rest : List Char) : Option Reading :=
  match r.stack with
  | [] => none
  | g :: stack =>
    let inner := r.whole
    let pattern := match g.index with
      | some i => Pattern.group i inner.pattern
      | none => inner.pattern
    ({ r with stack, flags := g.outer, alternatives := g.alternatives, items := g.items } : Reading).add?
      pattern (inner.height + 1) rest

/-- The set that a dot stands for; without Unicode it would hold bytes that are no character. -/
def dot? (flags : Flags) : Option CharSet :=
  if !flags.unicode then none
  else if flags.dotAll then some Text.Runs.all
  else if flags.crlf then some (Text.Runs.complement (.ofText "A D"))
  else some (Text.Runs.complement (CharSet.ofChar '\n'))

def caret (flags : Flags) : Look :=
  if flags.multiLine then (if flags.crlf then .lineStartCrlf else .lineStart) else .textStart

def dollar (flags : Flags) : Look :=
  if flags.multiLine then (if flags.crlf then .lineEndCrlf else .lineEnd) else .textEnd

/-- Reads the next element. -/
def step? (r : Reading) (c : Char) (rest : List Char) : Option Reading :=
  let short (least : Nat) (most : Option Nat) : Option Reading := match rest with
    | '?' :: rest => r.loop? least most true rest
    | _ => r.loop? least most false rest
  match c with
  | '(' => r.opening? rest
  | ')' => r.closing? rest
  | '|' =>
    let before := sequence r.items
    if heightLimit < before.height then none
    else some { r with rest, alternatives := before :: r.alternatives, items := [] }
  | '[' => do
    let (a, rest) ← Bracket.set? r.flags rest
    r.add? (.ofSet a.set) a.height rest
  | '?' => short 0 (some 1)
  | '*' => short 0 none
  | '+' => short 1 none
  | '\x7b' => do
    let (least, most, rest) ← bounds? r.flags rest
    match r.flags.skip rest with
    | '?' :: rest => r.loop? least most true rest
    | rest => r.loop? least most false rest
  | '\\' => do
    let (atom, rest) ← Atom.escaped? r.flags rest
    r.add? (atom.toPattern r.flags) 0 rest
  | '.' => do r.add? (.ofSet (← dot? r.flags)) 0 rest
  | '^' => r.add? (.look (caret r.flags)) 0 rest
  | '$' => r.add? (.look (dollar r.flags)) 0 rest
  | c => r.add? ((Atom.char c).toPattern r.flags) 0 rest

/-- Reads elements to the end of the text, at most `fuel` of them. -/
def run? : Nat → Reading → Option Tree
  | 0, _ => none
  | fuel + 1, r =>
    match r.flags.skip r.rest with
    | [] => if r.stack.isEmpty then some r.whole else none
    | c :: rest => match r.step? c rest with
      | some r => run? fuel r
      | none => none

end Reading

/-- Reads a pattern under some settings. -/
def Pattern.ofText? (flags : Flags) (text : String) : Option Pattern :=
  let cs := text.toList
  match Reading.run? (cs.length + 1) ⟨cs, flags, 0, [], [], [], []⟩ with
  | some tree => if heightLimit < tree.height then none else some tree.pattern
  | none => none

end HttpExchange.Regex
