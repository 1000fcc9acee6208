import HttpExchange.Text.Basic
import HttpExchange.Text.Category
import HttpExchange.Text.Composition
import HttpExchange.Text.Direction
import HttpExchange.Url.NameMapping
import HttpExchange.Url.Punycode

/-!
The names of hosts: labels between full stops, of characters of any script, and the form in ASCII
in which they are sent. Two names that differ in case, width or spelling alone have one form.
-/
namespace HttpExchange.Url.Name
open Text (Direction direction joining markOrder)

/-- ASCII characters that no name holds. -/
def isForbidden (n : Nat) : Bool :=
  n ≤ 32 || n == 127 || ("%#/:<>?@[\\]^|".toList.map Char.toNat).contains n

/-- The numbers of all marks. -/
def markRuns : Array Text.Run :=
  (Text.Runs.union (Text.categories ["mn", "mc", "me"]) (.ofText "11B61 11B65 11B67")).toList.toArray

/-- A mark, which no label begins with. -/
def isMark (n : Nat) : Bool := direction n == .mark || Text.inTable markRuns n

/-! ## Joiners -/

/-- The first character that is not transparent joins as `joins` says. -/
def joinsAcross (joins : Text.Joining → Bool) (ns : List Nat) : Bool :=
  ((ns.map joining).find? (· != .transparent)).any joins

/-- Joiners stand only behind a mark that takes the vowel away, or, the one that keeps letters apart,
between letters that would join. `before` holds what is before, the last one first. -/
def joinersAllowed (before : List Nat) : List Nat → Bool
  | [] => true
  | n :: rest =>
    let allowed :=
      if n = 0x200C ∨ n = 0x200D then
        before.head?.any (markOrder · == 9) ||
          (n == 0x200C && joinsAcross (fun j => j == .left || j == .dual) before &&
            joinsAcross (fun j => j == .right || j == .dual) rest)
      else true
    allowed && joinersAllowed (n :: before) rest

/-! ## Direction -/

/-- A character that makes its name run in both directions. -/
def runsLeft (n : Nat) : Bool := [Direction.right, .arabicLetter, .arabicNumber].contains (direction n)

/-- A label that may stand in a name that runs in both directions: it begins with a letter, holds what
goes with the direction of that letter, and ends in a letter or number, marks apart. -/
def runsOneWay (label : List Nat) : Bool :=
  let classes := label.map direction
  let last := (classes.reverse.find? (· != .mark)).getD .mark
  let shared : List Direction :=
    [.number, .numberSeparator, .commonSeparator, .numberTerminator, .neutral, .boundary, .mark]
  match classes with
  | [] => true
  | .left :: rest =>
    rest.all (fun d => d == .left || shared.contains d) && (last == .left || last == .number)
  | first :: rest =>
    (first == .right || first == .arabicLetter) &&
      rest.all (fun d => [Direction.right, .arabicLetter, .arabicNumber].contains d || shared.contains d) &&
      [Direction.right, .arabicLetter, .number, .arabicNumber].contains last &&
      !(rest.contains .number && rest.contains .arabicNumber)

/-! ## Labels -/

/-- A label in its characters, and as it is sent. -/
structure Label where
  chars : List Nat
  sent : List Char
  deriving Repr, DecidableEq

/-- The longest label in characters outside ASCII, and the longest text that is read as one. -/
def longestLabel : Nat := 1000
def longestSent : Nat := 2000

/-- A label of characters that can be sent: it begins with no mark, its joiners are in place, and it is
not too long. -/
def isSendable (ns : List Nat) : Bool :=
  !(ns.head?.any isMark) && joinersAllowed [] ns && ns.length ≤ longestLabel

/-- The mark of a label that is written in ASCII for characters outside it. -/
def sentMark : List Char := ['x', 'n', '-', '-']

/-- A label that is given as it is sent, after its mark: it must stand for characters outside ASCII that
need no change. -/
def ofSent? (rest : List Char) : Option Label := do
  if rest.getLast?.getD '-' = '-' ∨ longestSent < rest.length then none
  let ns := (← Punycode.decode? rest).map Char.toNat
  let isKept (n : Nat) : Bool := mapped? n == some [n] && !isForbidden n && n != '.'.toNat
  if ns.all (· < 128) ∨ !ns.all isKept ∨ Text.composed ns ≠ ns ∨ !isSendable ns then none
  else some ⟨ns, sentMark ++ rest⟩

/-- A label of mapped and composed characters. -/
def ofMapped? (ns : List Nat) : Option Label :=
  let cs := ns.map Char.ofNat
  if sentMark.isPrefixOf cs then
    if ns.all (· < 128) then ofSent? (cs.drop 4) else none
  else if ns.all (· < 128) then some ⟨ns, cs⟩
  else if isSendable ns then some ⟨ns, sentMark ++ Punycode.encode cs⟩
  else none

/-- The labels that a text between two full stops of ASCII gives: more than one if it holds others that
become such. -/
def labels? (cs : List Char) : Option (List Label) := do
  let mapped ← cs.mapM fun c => mapped? c.toNat
  (Text.splitWhere (· == '.'.toNat) (Text.composed mapped.flatten)).mapM ofMapped?

/-- The form in ASCII of a whole name. -/
def ascii? (cs : List Char) : Option (List Char) := do
  let labels := (← (Text.splitWhere (· == '.') cs).mapM labels?).flatten
  let all := labels.flatMap Label.chars
  if all.any isForbidden then none
  if all.any runsLeft ∧ !labels.all (runsOneWay ·.chars) then none
  return List.intercalate ['.'] (labels.map Label.sent)

end HttpExchange.Url.Name
