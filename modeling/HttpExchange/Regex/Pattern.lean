import HttpExchange.Regex.CharSet
import HttpExchange.Text.Utf8

/-!
Patterns as trees in a plain form: no empty part in a sequence, neighbouring letters in one text,
alternatives of single characters as a set, and what alternatives begin with alike in front of them.
-/
namespace HttpExchange.Regex

/-- A condition on a place between two characters. Words are Unicode's, or ASCII's. -/
inductive Look
  | textStart | textEnd
  | lineStart | lineEnd
  | lineStartCrlf | lineEndCrlf
  | wordBoundary (unicode : Bool) | noWordBoundary (unicode : Bool)
  | wordStart (unicode : Bool) | wordEnd (unicode : Bool)
  | wordStartHalf (unicode : Bool) | wordEndHalf (unicode : Bool)
  deriving Repr, DecidableEq

/-- A pattern. Groups are numbered from 1 on; a loop runs at least `least` times. -/
inductive Pattern
  | empty
  | text (cs : List Char)
  | set (s : CharSet)
  | look (k : Look)
  | group (index : Nat) (a : Pattern)
  | loop (greedy : Bool) (least : Nat) (most : Option Nat) (a : Pattern)
  | sequence (parts : List Pattern)
  | choice (options : List Pattern)

namespace Pattern

/-! ## Equality -/

mutual
/-- The patterns are written alike. -/
def isSame : Pattern → Pattern → Bool
  | empty, empty => true
  | text cs, text ds => cs == ds
  | set s, set t => s == t
  | look k, look l => k == l
  | group i a, group j b => i == j && a.isSame b
  | loop g least most a, loop h least' most' b => g == h && least == least' && most == most' && a.isSame b
  | sequence parts, sequence others => allSame parts others
  | choice options, choice others => allSame options others
  | _, _ => false
/-- The patterns of two lists are written alike one by one. -/
def allSame : List Pattern → List Pattern → Bool
  | [], [] => true
  | a :: as, b :: bs => a.isSame b && allSame as bs
  | _, _ => false
end

instance : BEq Pattern := ⟨isSame⟩

/-! ## Lengths -/

def octetCount (n : Nat) : Nat := (Utf8.encodeChar (.ofNat n)).length

mutual
/-- The fewest octets that a match takes; `none` if there is no match. -/
def least? : Pattern → Option Nat
  | empty => some 0
  | text cs => some ((cs.map (octetCount ·.toNat)).foldl (· + ·) 0)
  | set s => s.toList.head?.map (octetCount ·.1)
  | look _ => some 0
  | group _ a => a.least?
  | loop _ n _ a => a.least?.map (n * ·)
  | sequence parts => leastOfAll? parts
  | choice options => leastOfAny? options
/-- The fewest octets that matches of all parts take. -/
def leastOfAll? : List Pattern → Option Nat
  | [] => some 0
  | a :: rest => do return (← a.least?) + (← leastOfAll? rest)
/-- The fewest octets that a match of an option takes, if each of them can match. -/
def leastOfAny? : List Pattern → Option Nat
  | [] => none
  | [a] => a.least?
  | a :: rest => do return min (← a.least?) (← leastOfAny? rest)
end

mutual
/-- There is a match, and none takes a character. -/
def takesNothing : Pattern → Bool
  | empty => true
  | text cs => cs.isEmpty
  | set _ => false
  | look _ => true
  | group _ a => a.takesNothing
  | loop _ _ _ a => a.takesNothing
  | sequence parts => allTakeNothing parts
  | choice options => allTakeNothing options
/-- No part takes a character. -/
def allTakeNothing : List Pattern → Bool
  | [] => true
  | a :: rest => a.takesNothing && allTakeNothing rest
end

mutual
/-- Every match begins at the start of the text, as one can tell from the parts that take nothing
and the one behind them. -/
def beginsText : Pattern → Bool
  | look .textStart => true
  | group _ a => a.beginsText
  | loop _ n _ a => n != 0 && a.beginsText
  | sequence parts => firstBeginsText parts
  | choice options => allBeginText options
  | _ => false
/-- One of the first parts begins at the start of the text. -/
def firstBeginsText : List Pattern → Bool
  | [] => false
  | a :: rest => a.beginsText || (a.takesNothing && firstBeginsText rest)
/-- All options begin at the start of the text. -/
def allBeginText : List Pattern → Bool
  | [] => true
  | a :: rest => a.beginsText && allBeginText rest
end

mutual
/-- Every match ends at the end of the text. -/
def endsText : Pattern → Bool
  | look .textEnd => true
  | group _ a => a.endsText
  | loop _ n _ a => n != 0 && a.endsText
  | sequence parts => lastEndsText parts
  | choice options => allEndText options
  | _ => false
/-- One of the last parts ends at the end of the text. -/
def lastEndsText : List Pattern → Bool
  | [] => false
  | a :: rest => lastEndsText rest || (allTakeNothing rest && a.endsText)
/-- All options end at the end of the text. -/
def allEndText : List Pattern → Bool
  | [] => true
  | a :: rest => a.endsText && allEndText rest
end

/-! ## Groups -/

mutual
/-- The highest number of a group. -/
def groups : Pattern → Nat
  | group index a => max index a.groups
  | loop _ _ _ a => a.groups
  | sequence parts => groupsOfAll parts
  | choice options => groupsOfAll options
  | _ => 0
/-- The highest number of a group in any of the patterns. -/
def groupsOfAll : List Pattern → Nat
  | [] => 0
  | a :: rest => max a.groups (groupsOfAll rest)
end

/-! ## Plain forms -/

/-- One character of a set; a set of one is a text. -/
def ofSet (s : CharSet) : Pattern :=
  match s.toList with
  | [(first, last)] => if first = last then text [.ofNat first] else set s
  | _ => set s

/-- A pattern in a loop. What takes nothing is not tried twice, and a loop that never runs is empty. -/
def looped (greedy : Bool) (least : Nat) (most : Option Nat) (a : Pattern) : Pattern :=
  let (least, most) := if a.takesNothing then (min least 1, some (min (most.getD 1) 1)) else (least, most)
  if most = some 0 then empty
  else if least = 1 ∧ most = some 1 then a
  else loop greedy least most a

/-- Puts a part in front of others. -/
def joinText (a : Pattern) (rest : List Pattern) : List Pattern :=
  match a, rest with
  | empty, _ => rest
  | text cs, text ds :: more => text (cs ++ ds) :: more
  | _, _ => a :: rest

/-- One pattern after the other. -/
def ofSequence (parts : List Pattern) : Pattern :=
  let flat := parts.flatMap fun
    | sequence parts => parts
    | a => [a]
  match flat.foldr joinText [] with
  | [] => empty
  | [a] => a
  | parts => sequence parts

/-- The set of the characters of all options, if each of them is a text of one character. -/
def lettersOf? (options : List Pattern) : Option CharSet :=
  (options.mapM fun
    | text [c] => some (c.toNat, c.toNat)
    | _ => none).map Text.Runs.ofList

/-- The set of the members of all options, if each of them is a set. -/
def membersOf? (options : List Pattern) : Option CharSet :=
  (options.mapM fun
    | set s => some s
    | _ => none).map Text.Runs.unions

/-- The parts of a sequence. -/
def parts? : Pattern → Option (List Pattern)
  | sequence parts => some parts
  | _ => none

/-- What two sequences begin with alike. -/
def commonStart : List Pattern → List Pattern → List Pattern
  | a :: as, b :: bs => if a == b then a :: commonStart as bs else []
  | _, _ => []

/-- Options without what they have in common, in at most `depth` steps. -/
def ofOptions : Nat → List Pattern → Pattern
  | 0, options => choice options
  | depth + 1, options =>
    let flat := options.flatMap fun
      | choice options => options
      | a => [a]
    match flat with
    | [] => set .empty
    | [a] => a
    | first :: others =>
      match lettersOf? flat <|> membersOf? flat with
      | some s => ofSet s
      | none =>
        match first.parts?, others.mapM parts? with
        | some firstParts, some otherParts =>
          let common := otherParts.foldl commonStart firstParts
          if common.isEmpty then choice flat
          else
            let rests := (firstParts :: otherParts).map fun parts => ofSequence (parts.drop common.length)
            ofSequence (common ++ [ofOptions depth rests])
        | _, _ => choice flat

/-- Any of the patterns, the first one preferred. -/
def ofChoice (options : List Pattern) : Pattern :=
  ofOptions ((options.map fun
    | sequence parts => parts.length
    | _ => 0).foldl max 0 + 2) options

end Pattern
end HttpExchange.Regex
