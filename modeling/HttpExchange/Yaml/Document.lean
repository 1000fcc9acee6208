import HttpExchange.Yaml.Event

/-!
The document that a YAML text holds, and its values: scalars, sequences and mappings. An alias stands for
the value whose number it holds, wherever that stands.
-/
namespace HttpExchange.Yaml

/-- A document: its events, and the places of those that aliases stand for. -/
structure Document where
  events : List Event
  places : Std.HashMap Nat Nat

namespace Document

/-- The document of a text that holds none. -/
def empty : Document := ⟨[.missing], ∅⟩

/-- Passes marks of a document's end. -/
def skipEnds : List Token → List Token
  | .documentEnd :: rest => skipEnds rest
  | tokens => tokens

/-- Reads the directives before a document: one version that is understood at most, and handles of tags.
Also says whether there is any. -/
def directives? (hasVersion : Bool) (handles : Tag.Handles) : List Token → Option (Bool × Tag.Handles × List Token)
  | .version major minor :: rest =>
    if hasVersion ∨ major ≠ 1 ∨ (minor ≠ 1 ∧ minor ≠ 2) then none else directives? true handles rest
  | .tagDirective handle start :: rest =>
    if (handles.lookup handle).isSome then none
    else (directives? hasVersion ((handle, start) :: handles) rest).map fun (_, more) => (true, more)
  | tokens => some (hasVersion, handles, tokens)

/-- Where a document has been started, the token means that it holds no value. -/
def leavesOut (t : Token) : Bool := t matches .version _ _ | .tagDirective _ _ | .documentStart | .documentEnd

/-- The only document of a text. -/
def ofTokens? (tokens : List Token) : Option Document := do
  if tokens.isEmpty then return empty
  let (any, handles, rest) ← directives? false [] tokens
  let handles := handles ++ Tag.standardHandles.filter fun (h, _) => (handles.lookup h).isNone
  let (isStarted, rest) ← match rest with
    | .documentStart :: rest => some (true, rest)
    | rest => if any then none else some (false, rest)
  let start : Composer := ⟨rest, handles, [], [], 0, ∅, ∅⟩
  let start := if isStarted ∧ rest.head?.all leavesOut then start.emit .missing else start.expect (.value true false)
  let c ← start.run? (8 * tokens.length + 8)
  if (skipEnds c.tokens).isEmpty then some ⟨c.events.reverse, c.places⟩ else none

/-- The only document of a text. -/
def ofText? (text : String) : Option Document := (Token.ofText? text).bind ofTokens?

end Document

/-- A value: the document, and the events from the start of the value on. -/
structure Value where
  document : Document
  events : List Event

namespace Value

/-- The value of a document. -/
def ofDocument (d : Document) : Value := ⟨d, d.events⟩

/-- The value of the only document of a text. -/
def ofText? (text : String) : Option Value := (Document.ofText? text).map ofDocument

/-- The value itself, or the one that an alias stands for. -/
def target (v : Value) : Value :=
  match v.events with
  | .alias id :: _ => ⟨v.document, v.document.events.drop (v.document.places[id]?.getD 0)⟩
  | _ => v

/-- The scalar that a value is: its style, tag and text. -/
def scalar? (v : Value) : Option (Style × Option Bytes × String) :=
  match v.target.events with
  | .scalar style tag text :: _ => some (style, tag, text)
  | _ => none

/-- The events after a value, inside `depth` collections that end before. -/
def after (depth : Nat) : List Event → List Event
  | [] => []
  | e :: rest =>
    match e with
    | .sequenceStart => after (depth + 1) rest
    | .mappingStart => after (depth + 1) rest
    | .sequenceEnd => if depth ≤ 1 then rest else after (depth - 1) rest
    | .mappingEnd => if depth ≤ 1 then rest else after (depth - 1) rest
    | _ => if depth = 0 then rest else after depth rest

/-- The pairs up to the end of a mapping, at most `fuel` of them, after those found before, the last one
first. -/
def pairsFrom (d : Document) : Nat → List Event → List (Value × Value) → List (Value × Value)
  | 0, _, found => found.reverse
  | _ + 1, [], found => found.reverse
  | _ + 1, .mappingEnd :: _, found => found.reverse
  | fuel + 1, events, found =>
    let value := after 0 events
    pairsFrom d fuel (after 0 value) ((⟨d, events⟩, ⟨d, value⟩) :: found)

/-- The pairs of the mapping that a value is. -/
def pairs? (v : Value) : Option (List (Value × Value)) :=
  match v.target.events with
  | .mappingStart :: rest => some (pairsFrom v.document rest.length rest [])
  | _ => none

end Value
end HttpExchange.Yaml
