import HttpExchange.Message
import HttpExchange.Text.Basic
import HttpExchange.Text.Utf8

/-!
An incremental reader of messages. Octets arrive in pieces of any size; the head is read line by
line up to a limit, then the body up to its declared length.
-/
namespace HttpExchange

/-- Why the length of a body is refused. -/
inductive LengthFault
  | unreadable (value : String)
  | conflicting (known given : Nat)
  | missing
  | described (reason : String)
  deriving Repr, DecidableEq

/-- The reason in words. -/
def LengthFault.message : LengthFault → String
  | unreadable value => "unparsable value " ++ Text.quoted value
  | conflicting known given =>
    "conflicting values " ++ Text.decimal known ++ " and " ++ Text.decimal given
  | missing => "headers ended without a Content-Length"
  | described reason => reason

/-- Why reading stops. -/
inductive ParseError
  | startLine (fault : StartLineFault)
  | contentLength (fault : LengthFault)
  | headTooLarge (limit : Nat)
  deriving Repr, DecidableEq

/-- The error in words. -/
def ParseError.message : ParseError → String
  | startLine fault => "invalid start line: " ++ fault.message
  | contentLength fault => "invalid or missing content-length: " ++ fault.message
  | headTooLarge limit => "message head exceeds " ++ Text.decimal limit ++ " bytes"

/-- What the reader waits for, with the message as far as it is read. A message that was taken out
leaves `done none`. -/
inductive Awaiting (S : Type)
  | startLine
  | headers (m : Message S)
  | body (m : Message S)
  | done (m : Option (Message S))
  deriving Repr, DecidableEq

/-- The message as far as it is read. -/
def Awaiting.message {S : Type} : Awaiting S → Option (Message S)
  | startLine => none
  | headers m => some m
  | body m => some m
  | done m => m

/-- A reader in the middle of its input: the octets of the unfinished line, how many of them were
searched for a line end, and the length of the finished lines. -/
structure Parser (S : Type) where
  awaiting : Awaiting S
  pending : Bytes
  scanned : Nat
  headLength : Nat
  ignoreBody : Bool
  deriving Repr, DecidableEq

/-- Whether more octets are needed. -/
inductive Progress
  | needMore | complete
  deriving Repr, DecidableEq

namespace Parser
variable {S : Type}

/-- The longest head that is read, line ends included. -/
def headLimit : Nat := 65536

/-- A reader at the start of a message. -/
def fresh : Parser S := ⟨.startLine, [], 0, 0, false⟩

/-- A fresh reader that ends the message with its headers if `ignore` is set. -/
def freshIgnoring (ignore : Bool) : Parser S := { (fresh : Parser S) with ignoreBody := ignore }

/-- Forgets everything read and set. -/
def reset (_ : Parser S) : Parser S := fresh

/-- The message as far as it is read. -/
def message (p : Parser S) : Option (Message S) := p.awaiting.message

/-- Takes out the finished message. -/
def take (p : Parser S) : Option (Message S) × Parser S :=
  match p.awaiting with
  | .done m => (m, { p with awaiting := .done none })
  | _ => (none, p)

/-- What the search for the end of a head line gives. -/
inductive LineSearch (S : Type)
  | unfinished (p : Parser S)
  | tooLarge (p : Parser S)
  | found (line : Bytes) (p : Parser S)

/-- Splits off the next head line. The last octet of an unfinished line is searched again: it may be
a CR whose LF is still to come. -/
def nextLine (p : Parser S) : LineSearch S :=
  match p.pending.lineEnd? p.scanned with
  | none =>
    if headLimit < p.headLength + p.pending.length then .tooLarge p
    else .unfinished { p with scanned := p.pending.length - 1 }
  | some i =>
    let length := p.headLength + (i + 2)
    if headLimit < length then .tooLarge { p with scanned := 0, headLength := length }
    else .found (p.pending.take i) ⟨p.awaiting, p.pending.drop (i + 2), 0, length, p.ignoreBody⟩

theorem nextLine_found_lt {p q : Parser S} {line : Bytes} (h : p.nextLine = .found line q) :
    q.pending.length < p.pending.length := by
  unfold nextLine at h
  split at h
  · split at h <;> cases h
  · rename_i i found
    simp only at h
    split at h
    · cases h
    · cases h
      have := Bytes.lineEnd?_lt found
      simp; omega

/-- Declared lengths are below this bound, the number of values that 64 bits have. -/
def lengthBound : Nat := 18446744073709551616

/-- Reads a declared length: the first one counts, repeating it is harmless. `none` means that the
field is already known. -/
def declaredLength (known : Option Nat) (value : String) : Except LengthFault (Option Nat) :=
  match Text.naturalBelow? lengthBound value with
  | none => .error (.unreadable value)
  | some length => match known with
    | none => .ok (some length)
    | some earlier => if earlier = length then .ok none else .error (.conflicting earlier length)

/-- Reads a header line: name and value are parted by the first colon and trimmed, a line without one
is passed over. -/
def headerLine (m : Message S) (line : Bytes) : Except LengthFault (Message S) :=
  match Text.cut? ':' (Utf8.decodeLossy line) with
  | none => .ok m
  | some (left, right) =>
    let name := Text.trim left
    let value := Text.trim right
    if Text.sameIgnoringCase name "Content-Length" then
      match declaredLength m.contentLength value with
      | .error fault => .error fault
      | .ok none => .ok m
      | .ok (some length) =>
        .ok { m with contentLength := some length, headers := m.headers.set name value }
    else .ok { m with headers := m.headers.set name value }

variable [StartLine S]

/-- Reads the start line. -/
def startLine (line : Bytes) : Except StartLineFault S :=
  match Utf8.decode? line with
  | none => .error .notText
  | some text => StartLine.ofText text

/-- What follows the blank line: nothing if the body is ignored or excluded, else a body of declared
length. -/
def endHead (ignoreBody : Bool) (m : Message S) : Except LengthFault (Awaiting S) :=
  if ignoreBody || !m.mayHaveBody then .ok (.done (some m))
  else match m.contentLength with
    | none => .error .missing
    | some _ => .ok (.body m)

/-- What a head line makes of the message so far. Blank lines before the start line are skipped. -/
def interpret (ignoreBody : Bool) (line : Bytes) : Awaiting S → Except ParseError (Awaiting S)
  | .startLine =>
    if line = [] then .ok .startLine
    else match startLine line with
      | .error fault => .error (.startLine fault)
      | .ok start => .ok (.headers (.ofStart start))
  | .headers m =>
    if line = [] then (endHead ignoreBody m).mapError .contentLength
    else match headerLine m line with
      | .error fault => .error (.contentLength fault)
      | .ok m => .ok (.headers m)
  | later => .ok later

/-- Adds what is pending to the body, up to the declared length; the surplus is dropped. -/
def fillBody (m : Message S) (p : Parser S) : Parser S :=
  let missing := m.contentLength.getD 0 - m.body.length
  let filled := { m with body := m.body ++ p.pending.take missing }
  { p with awaiting := if filled.isComplete then .done (some filled) else .body filled, pending := [] }

/-- Reads as far as the pending octets go. After an error the offending line is gone, unless it was
too long, and what follows it is still pending. -/
def advance (p : Parser S) : Except ParseError Progress × Parser S :=
  match p.awaiting with
  | .done _ => (.ok .complete, p)
  | .body m =>
    let filled := p.fillBody m
    match filled.awaiting with
    | .done _ => (.ok .complete, filled)
    | _ => (.ok .needMore, filled)
  | _ =>
    match _search : p.nextLine with
    | .unfinished q => (.ok .needMore, q)
    | .tooLarge q => (.error (.headTooLarge headLimit), q)
    | .found line q =>
      match interpret q.ignoreBody line q.awaiting with
      | .error e => (.error e, q)
      | .ok awaiting => advance { q with awaiting }
termination_by p.pending.length
decreasing_by exact nextLine_found_lt _search

/-- Takes in a piece of input. A finished reader drops it. -/
def feed (p : Parser S) (data : Bytes) : Except ParseError Progress × Parser S :=
  match p.awaiting with
  | .done _ => (.ok .complete, p)
  | _ => advance { p with pending := p.pending ++ data }

/-- Takes in pieces up to the first result that is not `needMore`. -/
def feedAll (p : Parser S) : List Bytes → Except ParseError Progress × Parser S
  | [] => (.ok .needMore, p)
  | piece :: rest =>
    match p.feed piece with
    | (.ok .needMore, q) => q.feedAll rest
    | outcome => outcome

/-- The number of pieces that `feedAll` takes in. -/
def piecesTaken (p : Parser S) : List Bytes → Nat
  | [] => 0
  | piece :: rest =>
    match p.feed piece with
    | (.ok .needMore, q) => q.piecesTaken rest + 1
    | _ => 1

/-- The first message among octets, with what follows it. -/
def first? (p : Parser S) : Bytes → Option (Message S × Bytes)
  | [] => none
  | octet :: rest =>
    match p.feed [octet] with
    | (.ok .complete, q) => q.take.1.map fun m => (m, rest)
    | (.ok .needMore, q) => q.first? rest
    | (.error _, _) => none

end Parser
end HttpExchange
