import HttpExchange.Yaml.Token
import Std.Data.HashMap

/-!
A YAML document as events: scalars, and the starts and ends of collections. What is expected next stands
on a stack, so that collections may lie in each other as deep as the text says.
-/
namespace HttpExchange.Yaml

/-- A part of a document. An alias holds the number of the name it uses. -/
inductive Event
  | alias (id : Nat)
  | scalar (style : Style) (tag : Option Bytes) (text : String)
  | sequenceStart | sequenceEnd
  | mappingStart | mappingEnd
  deriving Repr, DecidableEq

/-- The scalar that stands for a value that is not there. -/
def Event.missing : Event := .scalar .plain none ""

/-- What may come next. A value stands in a block or in a flow, and in a block mapping it may be a sequence
at the column of the mapping. -/
inductive Expectation
  | value (inBlock unindented : Bool)
  | blockItems
  | unindentedItems
  | blockKey | blockValue
  | flowItems (isFirst : Bool)
  | pairKey | pairValue | pairEnd
  | flowKey (isFirst : Bool)
  | flowValue
  | noValue
  deriving Repr, DecidableEq

/-- A document half read: the tokens left, the events so far, the last one first, with their number; the
numbers that names have now, and the places of the events that numbers stand for. -/
structure Composer where
  tokens : List Token
  handles : Tag.Handles
  expected : List Expectation
  events : List Event
  count : Nat
  names : Std.HashMap String Nat
  places : Std.HashMap Nat Nat

namespace Composer

def emit (c : Composer) (e : Event) : Composer := { c with events := e :: c.events, count := c.count + 1 }

def expect (c : Composer) (x : Expectation) : Composer := { c with expected := x :: c.expected }

def moveTo (c : Composer) (tokens : List Token) : Composer := { c with tokens }

/-- Gives the next event a name. Its number is the count of other names; a name that is given again has
no number less, so that two names may come to share one. -/
def name (c : Composer) : Option String → Composer
  | some name =>
    let id := c.names.size
    { c with names := c.names.insert name id, places := c.places.insert id c.count }
  | none => c

/-- Anchor and tag in front of a value. -/
structure Properties where
  anchor : Option String
  tag : Option Bytes

/-- Reads an anchor, a tag, or both in either order. -/
def properties? (c : Composer) : Option (Properties × Composer) := do
  match c.tokens with
  | .anchor name :: .tag tag :: rest => some (⟨some name, some (← tag.full? c.handles)⟩, c.moveTo rest)
  | .tag tag :: .anchor name :: rest => some (⟨some name, some (← tag.full? c.handles)⟩, c.moveTo rest)
  | .anchor name :: rest => some (⟨some name, none⟩, c.moveTo rest)
  | .tag tag :: rest => some (⟨none, some (← tag.full? c.handles)⟩, c.moveTo rest)
  | _ => some (⟨none, none⟩, c)

/-- Reads a value up to the start of what is in it. The tag that is only a mark counts as none. -/
def value? (c : Composer) (inBlock unindented : Bool) : Option Composer := do
  match c.tokens with
  | .alias name :: rest => return (c.emit (.alias (← c.names[name]?))).moveTo rest
  | _ =>
    let (p, c) ← c.properties?
    let c := c.name p.anchor
    let start (e : Event) (x : Expectation) (rest : List Token) : Option Composer :=
      some (((c.emit e).expect x).moveTo rest)
    let otherwise : Option Composer :=
      if p.anchor.isSome ∨ p.tag.isSome then some (c.emit (.scalar .plain p.tag "")) else none
    match c.tokens with
    | .blockEntry :: _ => if unindented then start .sequenceStart .unindentedItems c.tokens else otherwise
    | .scalar style text :: rest =>
      let tag := if p.tag = some (Utf8.encode "!") then none else p.tag
      some ((c.emit (.scalar style tag text)).moveTo rest)
    | .flowSequence :: rest => start .sequenceStart (.flowItems true) rest
    | .flowMapping :: rest => start .mappingStart (.flowKey true) rest
    | .blockSequence :: rest => if inBlock then start .sequenceStart .blockItems rest else otherwise
    | .blockMapping :: rest => if inBlock then start .mappingStart .blockKey rest else otherwise
    | _ => otherwise

/-- Reads a value, unless the next token is one of those before which there is none, and expects something
after it. -/
def valueOrNone (c : Composer) (after : Expectation) (inBlock unindented : Bool) (ends : Token → Bool) : Composer :=
  let c := c.expect after
  if c.tokens.head?.any ends then c.emit .missing else c.expect (.value inBlock unindented)

/-- Meets the latest expectation, which is taken off already. -/
def meet? (c : Composer) : Expectation → Option Composer
  | .value inBlock unindented => c.value? inBlock unindented
  | .blockItems => match c.tokens with
    | .blockEntry :: rest =>
      (c.moveTo rest).valueOrNone .blockItems true false (· matches .blockEntry | .blockEnd)
    | .blockEnd :: rest => (c.emit .sequenceEnd).moveTo rest
    | _ => none
  | .unindentedItems => match c.tokens with
    | .blockEntry :: rest =>
      (c.moveTo rest).valueOrNone .unindentedItems true false (· matches .blockEntry | .key | .value | .blockEnd)
    | _ => c.emit .sequenceEnd
  | .blockKey => match c.tokens with
    | .key :: rest => (c.moveTo rest).valueOrNone .blockValue true true (· matches .key | .value | .blockEnd)
    | .blockEnd :: rest => (c.emit .mappingEnd).moveTo rest
    | _ => none
  | .blockValue => match c.tokens with
    | .value :: rest => (c.moveTo rest).valueOrNone .blockKey true true (· matches .key | .value | .blockEnd)
    | _ => (c.emit .missing).expect .blockKey
  | .flowItems isFirst =>
    let item (tokens : List Token) : Composer := match tokens with
      | .key :: rest => ((c.emit .mappingStart).expect .pairKey).moveTo rest
      | .flowSequenceEnd :: rest => (c.emit .sequenceEnd).moveTo rest
      | tokens => ((c.expect (.flowItems false)).expect (.value false false)).moveTo tokens
    match isFirst, c.tokens with
    | true, tokens => item tokens
    | false, .flowEntry :: rest => item rest
    | false, .flowSequenceEnd :: rest => (c.emit .sequenceEnd).moveTo rest
    | false, _ => none
  | .pairKey => match c.tokens with
    | .value :: rest => ((c.emit .missing).expect .pairValue).moveTo rest
    | .flowEntry :: rest => ((c.emit .missing).expect .pairValue).moveTo rest
    | .flowSequenceEnd :: rest => ((c.emit .missing).expect .pairValue).moveTo rest
    | _ => (c.expect .pairValue).expect (.value false false)
  | .pairValue => match c.tokens with
    | .value :: rest => (c.moveTo rest).valueOrNone .pairEnd false false (· matches .flowEntry | .flowSequenceEnd)
    | _ => (c.emit .missing).expect .pairEnd
  | .pairEnd => (c.emit .mappingEnd).expect (.flowItems false)
  | .flowKey isFirst =>
    let pair (tokens : List Token) : Composer := match tokens with
      | .key :: rest =>
        (c.moveTo rest).valueOrNone .flowValue false false (· matches .value | .flowEntry | .flowMappingEnd)
      | .flowMappingEnd :: rest => (c.emit .mappingEnd).moveTo rest
      | tokens => ((c.expect .noValue).expect (.value false false)).moveTo tokens
    match isFirst, c.tokens with
    | true, tokens => pair tokens
    | false, .flowEntry :: rest => pair rest
    | false, .flowMappingEnd :: rest => (c.emit .mappingEnd).moveTo rest
    | false, _ => none
  | .flowValue => match c.tokens with
    | .value :: rest =>
      (c.moveTo rest).valueOrNone (.flowKey false) false false (· matches .flowEntry | .flowMappingEnd)
    | _ => (c.emit .missing).expect (.flowKey false)
  | .noValue => (c.emit .missing).expect (.flowKey false)

/-- Meets what is expected until nothing is, in at most `fuel` steps. -/
def run? : Nat → Composer → Option Composer
  | 0, _ => none
  | fuel + 1, c =>
    match c.expected with
    | [] => some c
    | x :: others => match ({ c with expected := others } : Composer).meet? x with
      | some c => run? fuel c
      | none => none

end Composer
end HttpExchange.Yaml
