import HttpExchange.Regex.Assembly
import HttpExchange.Regex.Reader

/-!
Matching: the leftmost match, by the path that prefers the first way everywhere. All paths go on
together, octet by octet; of several that come to one state the most preferred goes on alone.
-/
namespace HttpExchange.Regex

/-- A pattern ready to match, with the number of its groups. -/
structure Matcher where
  groups : Nat
  automaton : Automaton

/-- What a match binds: the places by slot, twice the group number for its start, one more for its end.
The latest binding stands first. -/
abbrev Slots := List (Nat × Nat)

/-- A path: the state it is in and what it has bound. -/
structure Path where
  state : Nat
  slots : Slots

/-- A character of words stands at a place. -/
def isWordAt (unicode : Bool) (text : Array Char) (i : Nat) : Bool :=
  match text[i]? with
  | some c => (CharSet.word unicode).contains c.toNat
  | none => false

/-- A character of words stands before a place. -/
def isWordBefore (unicode : Bool) (text : Array Char) (i : Nat) : Bool :=
  i != 0 && isWordAt unicode text (i - 1)

/-- A character stands at a place. -/
def standsAt (text : Array Char) (c : Char) (i : Nat) : Bool := text[i]? == some c

/-- A character stands before a place. -/
def standsBefore (text : Array Char) (c : Char) (i : Nat) : Bool := i != 0 && standsAt text c (i - 1)

/-- The condition holds at a place. -/
def Look.holds (text : Array Char) (i : Nat) : Look → Bool
  | textStart => i == 0
  | textEnd => i == text.size
  | lineStart => i == 0 || standsBefore text '\n' i
  | lineEnd => i == text.size || standsAt text '\n' i
  | lineStartCrlf => i == 0 || standsBefore text '\n' i || (standsBefore text '\r' i && !standsAt text '\n' i)
  | lineEndCrlf => i == text.size || standsAt text '\r' i || (standsAt text '\n' i && !standsBefore text '\r' i)
  | wordBoundary u => isWordBefore u text i != isWordAt u text i
  | noWordBoundary u => isWordBefore u text i == isWordAt u text i
  | wordStart u => !isWordBefore u text i && isWordAt u text i
  | wordEnd u => isWordBefore u text i && !isWordAt u text i
  | wordStartHalf u => !isWordBefore u text i
  | wordEndHalf u => !isWordAt u text i

/-- The paths after an octet, in order of preference, with the round in which each state was last come to;
and the best match so far. -/
structure Progress where
  rounds : Array Nat
  paths : Array Path
  found : Option Slots

namespace Matcher

/-- Follows paths, in order and at most `fuel` steps, to states that take an octet or accept. No condition
holds within a character, where there is no `place`. -/
def spread (a : Automaton) (text : Array Char) (place : Option Nat) (round : Nat) :
    Nat → List Path → Progress → Progress
  | 0, _, progress => progress
  | _ + 1, [], progress => progress
  | fuel + 1, ⟨state, slots⟩ :: others, ⟨rounds, paths, found⟩ =>
    if rounds[state]? = some round then spread a text place round fuel others ⟨rounds, paths, found⟩
    else
      let rounds := rounds.setIfInBounds state round
      let goOn (next : List Path) (paths : Array Path) : Progress :=
        spread a text place round fuel (next ++ others) ⟨rounds, paths, found⟩
      match a.states[state]? with
      | none => goOn [] paths
      | some (.pass next) => goOn [⟨next, slots⟩] paths
      | some (.look k next) => goOn (if place.any fun i => k.holds text i then [⟨next, slots⟩] else []) paths
      | some (.fork preferLast nexts) =>
        let nexts := if preferLast then nexts.toList.reverse else nexts.toList
        goOn (nexts.map fun next => ⟨next, slots⟩) paths
      | some (.save slot next) => goOn [⟨next, (slot, place.getD 0) :: slots⟩] paths
      | some _ => goOn [] (paths.push ⟨state, slots⟩)

/-- Takes an octet on each path; a path that accepts ends those behind it. -/
def advance (a : Automaton) (text : Array Char) (octet : Nat) (place : Option Nat) (round : Nat) :
    List Path → Progress → Progress
  | [], progress => progress
  | ⟨state, slots⟩ :: others, progress =>
    let goOn (move : Option Move) : Progress :=
      let progress := match move with
        | some move => spread a text place round (a.size + 2) [⟨move.next, slots⟩] progress
        | none => progress
      advance a text octet place round others progress
    match a.states[state]? with
    | some .accept => { progress with found := some slots }
    | some (.octet move) => goOn (if move.takes octet then some move else none)
    | some (.octets moves) => goOn (moves.find? (·.takes octet))
    | _ => goOn none

/-- Takes the octets of one character, after which there is a place. -/
def takeOctets (a : Automaton) (text : Array Char) (place : Nat) : List Nat → Nat → Progress → Nat × Progress
  | [], round, progress => (round, progress)
  | octet :: rest, round, ⟨rounds, paths, found⟩ =>
    let after := if rest.isEmpty then some place else none
    takeOctets a text place rest (round + 1)
      (advance a text octet after (round + 1) paths.toList ⟨rounds, #[], found⟩)

/-- Takes characters as long as there are paths. -/
def takeChars (a : Automaton) (text : Array Char) : List Char → Nat → Nat → Progress → Progress
  | [], _, _, progress => progress
  | c :: rest, place, round, progress =>
    if progress.paths.isEmpty then progress
    else
      let (round, progress) := takeOctets a text (place + 1) (Octets.ofNumber c.toNat) round progress
      takeChars a text rest (place + 1) round progress

/-- What the leftmost match in a text binds. -/
def search (a : Automaton) (text : Array Char) : Option Slots :=
  let start := spread a text (some 0) 1 (a.size + 2) [⟨a.start, []⟩] ⟨.replicate a.states.size 0, #[], none⟩
  let last := takeChars a text text.toList 0 1 start
  let accepting := last.paths.toList.find? fun path => match a.states[path.state]? with
    | some .accept => true
    | _ => false
  accepting.map Path.slots <|> last.found

/-- The text of a group, if it took part in the match. -/
def capture? (text : Array Char) (slots : Slots) (group : Nat) : Option String := do
  let first ← slots.lookup (2 * group)
  let last ← slots.lookup (2 * group + 1)
  return .ofList (text.extract first last).toList

/-- The groups of the leftmost match in a text, from 1 on. -/
def captures? (r : Matcher) (text : String) : Option (List (Option String)) :=
  let chars := text.toList.toArray
  (search r.automaton chars).map fun slots =>
    (List.range r.groups).map fun i => capture? chars slots (i + 1)

/-- Compiles a pattern under some settings. Both directions must fit in memory. -/
def compile (flags : Flags) (text : String) : Except Fault Matcher :=
  match Pattern.ofText? flags text with
  | none => .error .unreadable
  | some p =>
    match Automaton.ofPattern? false p with
    | none => .error .tooLarge
    | some a => if (Automaton.ofPattern? true p).isSome then .ok ⟨p.groups, a⟩ else .error .tooLarge

end Matcher
end HttpExchange.Regex
