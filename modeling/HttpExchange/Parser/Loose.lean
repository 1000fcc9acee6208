import HttpExchange.Parser

/-!
A reader that keeps its state and its message apart, so that the message could be missing in every state. Where it is
missed, a fallback decides what is done.
-/
namespace HttpExchange

/-- How far a message is read. -/
inductive ReadState
  | awaitingStartLine | awaitingHeaders | awaitingBody | done
  deriving Repr, DecidableEq

/-- A reader in the middle of its input, with its message in a place of its own. -/
structure LooseParser (S : Type) where
  state : ReadState
  message : Option (Message S)
  pending : Bytes
  scanned : Nat
  headLength : Nat
  ignoreBody : Bool
  deriving Repr, DecidableEq

namespace LooseParser
variable {S : Type}
open HttpExchange.Parser (headLimit)

/-- What is done where the message is missed: how a line of the head fails, and what becomes of the reader of a body. -/
structure Fallback (S : Type) where
  head : ParseError
  body : LooseParser S → LooseParser S

/-- A line of the head without a message is refused, a body without a message is left alone. -/
def guarded : Fallback S := ⟨.startLine (.described "header received before the start line"), id⟩

def fresh : LooseParser S := ⟨.awaitingStartLine, none, [], 0, 0, false⟩

def reset (_ : LooseParser S) : LooseParser S := fresh

/-- Takes out the finished message. -/
def take (p : LooseParser S) : Option (Message S) × LooseParser S :=
  if p.state = .done then (p.message, { p with message := none }) else (none, p)

/-- Adds what is pending to the body. -/
def fillBody (fallback : Fallback S) (p : LooseParser S) : LooseParser S :=
  match p.message with
  | none => fallback.body p
  | some m =>
    let missing := m.contentLength.getD 0 - m.body.length
    let filled := { m with body := m.body ++ p.pending.take missing }
    { p with state := if filled.isComplete then .done else p.state, message := some filled, pending := [] }

/-- Reads a header line. The message is looked for once the line is parted by its colon. -/
def headerLine (fallback : Fallback S) (message : Option (Message S)) (line : Bytes) :
    Except ParseError (ReadState × Option (Message S)) :=
  match Text.cut? ':' (Utf8.decodeLossy line) with
  | none => .ok (.awaitingHeaders, message)
  | some _ => match message with
    | none => .error fallback.head
    | some m => match Parser.headerLine m line with
      | .error fault => .error (.contentLength fault)
      | .ok m => .ok (.awaitingHeaders, some m)

variable [StartLine S]

/-- Reads the blank line at the end of the head. -/
def endHead (fallback : Fallback S) (ignoreBody : Bool) (message : Option (Message S)) :
    Except ParseError (ReadState × Option (Message S)) :=
  match message with
  | none => .error fallback.head
  | some m =>
    if ignoreBody || !m.mayHaveBody then .ok (.done, message)
    else match m.contentLength with
      | none => .error (.contentLength .missing)
      | some _ => .ok (.awaitingBody, message)

/-- What a line of the head makes of state and message. -/
def interpret (fallback : Fallback S) (ignoreBody : Bool) (line : Bytes) (message : Option (Message S)) :
    ReadState → Except ParseError (ReadState × Option (Message S))
  | .awaitingStartLine =>
    if line = [] then .ok (.awaitingStartLine, message)
    else match Parser.startLine line with
      | .error fault => .error (.startLine fault)
      | .ok start => .ok (.awaitingHeaders, some (.ofStart start))
  | _ => if line = [] then endHead fallback ignoreBody message else headerLine fallback message line

/-- Reads as far as the pending octets go. -/
def advance (fallback : Fallback S) (p : LooseParser S) : Except ParseError Progress × LooseParser S :=
  match p.state with
  | .done => (.ok .complete, p)
  | .awaitingBody =>
    let filled := p.fillBody fallback
    (.ok (if filled.state = .done then .complete else .needMore), filled)
  | _ =>
    match _search : p.pending.lineEnd? p.scanned with
    | none =>
      if headLimit < p.headLength + p.pending.length then (.error (.headTooLarge headLimit), p)
      else (.ok .needMore, { p with scanned := p.pending.length - 1 })
    | some i =>
      let length := p.headLength + (i + 2)
      if headLimit < length then
        (.error (.headTooLarge headLimit), { p with scanned := 0, headLength := length })
      else
        let behind := { p with pending := p.pending.drop (i + 2), scanned := 0, headLength := length }
        match interpret fallback p.ignoreBody (p.pending.take i) p.message p.state with
        | .error e => (.error e, behind)
        | .ok (state, message) => advance fallback { behind with state, message }
termination_by p.pending.length
decreasing_by
  have := Bytes.lineEnd?_lt _search
  simp only [List.length_drop]
  omega

/-- Takes in a piece of input. -/
def feed (fallback : Fallback S) (p : LooseParser S) (data : Bytes) : Except ParseError Progress × LooseParser S :=
  if p.state = .done then (.ok .complete, p) else advance fallback { p with pending := p.pending ++ data }

end LooseParser
end HttpExchange
