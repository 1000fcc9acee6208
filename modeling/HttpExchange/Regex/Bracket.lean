import HttpExchange.Regex.Escape

/-!
Sets between square brackets: characters, ranges, classes, sets within sets, and the operations on
them. Each is read with its height, the number of levels it is built of.
-/
namespace HttpExchange.Regex

/-- The most levels that a pattern may have. -/
def heightLimit : Nat := 250

namespace Bracket

/-- A set, and the number of levels of its text. -/
structure Operand where
  set : CharSet
  height : Nat

/-- Members side by side: their runs, how many there are, and the height of the highest. -/
structure Members where
  runs : List Text.Run
  count : Nat
  height : Nat

namespace Members

def none : Members := ⟨[], 0, 0⟩

def add (m : Members) (a : Operand) : Members :=
  ⟨a.set.toList ++ m.runs, m.count + 1, max m.height a.height⟩

/-- The members as one set; several of them are a level of their own. -/
def operand (m : Members) : Operand := ⟨.ofList m.runs, if m.count ≤ 1 then m.height else m.height + 1⟩

end Members

/-- An operation between two sets. -/
inductive Operation
  | inter | diff | symmetricDiff

/-- The result of an operation on folded sets. -/
def Operation.apply (flags : Flags) (operation : Operation) (a b : Operand) : Operand :=
  let (s, t) := (flags.fold a.set, flags.fold b.set)
  let set := match operation with
    | inter => s.inter t
    | diff => s.diff t
    | symmetricDiff => s.symmetricDiff t
  ⟨set, max a.height b.height + 1⟩

/-- What follows the opening bracket: whether the set is negated, and the marks that stand for
themselves there, hyphens or a closing bracket. -/
def opening (flags : Flags) (cs : List Char) : Bool × Members × List Char :=
  let (negate, cs) := match flags.skip cs with
    | '^' :: rest => (true, rest)
    | cs => (false, cs)
  match flags.takeWhere (· == '-') cs cs.length with
  | ([], ']' :: rest) => (negate, Members.none.add ⟨.ofChar ']', 0⟩, rest)
  | (hyphens, rest) => (negate, hyphens.foldl (fun m c => m.add ⟨.ofChar c, 0⟩) .none, rest)

/-- A class with a name, after its opening bracket, and whether it is negated. -/
def namedClass? : List Char → Option (Bool × CharSet × List Char)
  | ':' :: rest =>
    let (negate, rest) := match rest with
      | '^' :: more => (true, more)
      | _ => (false, rest)
    match rest.span (· != ':') with
    | (name, ':' :: ']' :: after) => (CharSet.ofAsciiName? (.ofList name)).map fun s => (negate, s, after)
    | _ => none
  | _ => none

/-- A character or class. Without Unicode the characters are those of ASCII. -/
def member? (flags : Flags) (cs : List Char) : Option (Atom × List Char) := do
  let (a, rest) ← match cs with
    | '\\' :: rest => Atom.escaped? flags rest
    | c :: rest => some (.char c, rest)
    | [] => none
  match a with
  | .char c => if flags.unicode ∨ c.toNat < 128 then some (a, rest) else none
  | _ => some (a, rest)

/-- The character that tells what a hyphen before it means: the next one that is no white space, the
first hash aside, or the very next if there is none. -/
def signAfter? (flags : Flags) (cs : List Char) : Option Char :=
  if !flags.spaced then cs.head?
  else
    let next := match cs.dropWhile Text.isBlank with
      | '#' :: rest => rest.dropWhile Text.isBlank
      | rest => rest
    next.head? <|> cs.head?

/-- A character, a class or a range of characters. -/
def range? (flags : Flags) (cs : List Char) : Option (CharSet × List Char) := do
  let (first, rest) ← member? flags cs
  let alone : Option (CharSet × List Char) := match first with
    | .char c => some (.ofChar c, rest)
    | .chars s => some (s, rest)
    | .place _ => none
  match flags.skip rest with
  | [] => none
  | '-' :: after =>
    if signAfter? flags after = some ']' ∨ signAfter? flags after = some '-' then alone
    else do
      let (last, rest) ← member? flags (flags.skip after)
      match first, last with
      | .char a, .char b => if a.toNat ≤ b.toNat then some (.between a b, rest) else none
      | _, _ => none
  | _ => alone

/-- Reads the members of a set up to its closing bracket, at most `fuel` of them, in at most `depth`
levels of brackets: `found` holds what stands since the last operation, `before` that operation and its
left side. -/
def members? (flags : Flags) (depth fuel : Nat) (negate : Bool) (before : Option (Operation × Operand))
    (found : Members) (cs : List Char) : Option (Operand × List Char) :=
  match depth, fuel with
  | 0, _ => none
  | _ + 1, 0 => none
  | depth + 1, fuel + 1 =>
    let combined (_ : Unit) : Operand := match before with
      | none => found.operand
      | some (operation, left) => operation.apply flags left found.operand
    let operate (operation : Operation) (rest : List Char) : Option (Operand × List Char) :=
      members? flags (depth + 1) fuel negate (some (operation, combined ())) .none rest
    match flags.skip cs with
    | [] => none
    | ']' :: rest => do
      let whole := combined ()
      let set ← flags.negatedIf? negate (flags.fold whole.set)
      return (⟨set, whole.height + 1⟩, rest)
    | '&' :: '&' :: rest => operate .inter rest
    | '-' :: '-' :: rest => operate .diff rest
    | '~' :: '~' :: rest => operate .symmetricDiff rest
    | '[' :: rest =>
      match namedClass? rest with
      | some (negated, s, rest) => do
        let s ← flags.negatedIf? negated (flags.fold s)
        members? flags (depth + 1) fuel negate before (found.add ⟨s, 0⟩) rest
      | none => do
        let (innerNegate, start, rest) := opening flags rest
        let (inner, rest) ← members? flags depth fuel innerNegate none start rest
        members? flags (depth + 1) fuel negate before (found.add inner) rest
    | cs => do
      let (s, rest) ← range? flags cs
      members? flags (depth + 1) fuel negate before (found.add ⟨s, 0⟩) rest

/-- Reads a set after its opening bracket. -/
def set? (flags : Flags) (cs : List Char) : Option (Operand × List Char) :=
  let (negate, start, rest) := opening flags cs
  members? flags (heightLimit + 1) (cs.length + 1) negate none start rest

end Bracket
end HttpExchange.Regex
