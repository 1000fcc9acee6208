import HttpExchange.Proofs.Parser.Completion
import HttpExchange.Server.Connection

/-!
What a connection makes of the octets of a request. They are not enough yet, they are refused, or they ask for
something; which of these is settled by the octets alone, however they were cut on their way.
-/
namespace HttpExchange.Connection

/-! ### What is asked -/

/-- What octets from the start of a request come to. -/
inductive Verdict
  | unfinished
  | refused
  | asked (request : Request)
  deriving Repr, DecidableEq

/-- What a reading comes to. A request that was read is refused if its body does not unpack. -/
def judge (packing : Packing) : Except ParseError Progress × Awaiting RequestLine → Verdict
  | (.ok .needMore, _) => .unfinished
  | (.ok .complete, .done (some request)) =>
    match ContentCoding.decode packing request with
    | .ok request => .asked request
    | .error _ => .refused
  | _ => .refused

/-- What octets come to when a reader begins with them. -/
def verdict (packing : Packing) (heard : Bytes) : Verdict := judge packing (Parser.outcome (Parser.fresh.feed heard))

theorem verdict_of_feedAll (packing : Packing) {pieces : List Bytes}
    {fed : Except ParseError Progress × Parser RequestLine} (read : Parser.fresh.feedAll pieces = fed) :
    verdict packing pieces.flatten = judge packing (Parser.outcome fed) := by
  have same := Parser.outcome_feedAll_fresh (S := RequestLine) false pieces
  rw [← read]
  exact congrArg (judge packing) same.symm

theorem verdict_nil (packing : Packing) : verdict packing [] = .unfinished :=
  verdict_of_feedAll packing (show Parser.fresh.feedAll [] = _ from rfl)

/-- A verdict stands whatever comes behind the octets. -/
theorem verdict_append {packing : Packing} {heard : Bytes} (settled : verdict packing heard ≠ .unfinished)
    (more : Bytes) : verdict packing (heard ++ more) = verdict packing heard := by
  unfold verdict at settled ⊢
  rw [Parser.outcome_feed_append (.of_scanned_zero rfl)]
  rcases fed : (Parser.fresh : Parser RequestLine).feed heard with ⟨_ | _ | _, q⟩
  · rfl
  · rw [fed] at settled
    exact absurd rfl settled
  · rfl

/-- Nothing is asked by octets that complete no request. -/
theorem complete_of_asked {packing : Packing} {heard : Bytes} {request : Request}
    (asked : verdict packing heard = .asked request) :
    ((Parser.fresh : Parser RequestLine).feed heard).1 = .ok .complete := by
  unfold verdict at asked
  rcases fed : (Parser.fresh : Parser RequestLine).feed heard with ⟨_ | _ | _, q⟩
  · rw [fed] at asked
    cases asked
  · rw [fed] at asked
    cases asked
  · rfl

theorem accept_of_done {packing : Packing} {c : Connection} {m : Request} (state : c.parser.awaiting = .done (some m)) :
    c.accept packing =
      match ContentCoding.decode packing m with
      | .ok request => { c with parser := c.parser.take.2 }.dispatch request
      | .error _ => { c with parser := c.parser.take.2 }.fault Response.badRequest := by
  have taken := Parser.take_of_done state
  unfold accept
  rcases unpacked : ContentCoding.decode packing m with _ | request
  · simp only [taken, unpacked]
  · simp only [taken, unpacked]

/-- A reader that goes on with a piece goes on, answers with a fault or hands out the request, as the octets that
it was fed since it was fresh say. -/
theorem read_verdict (packing : Packing) {c : Connection} {pieces : List Bytes}
    (waits : Parser.fresh.feedAll pieces = (.ok .needMore, c.parser)) {piece : Bytes} (nonempty : piece ≠ []) :
    ∃ parser, match verdict packing (pieces ++ [piece]).flatten with
      | .unfinished => Parser.fresh.feedAll (pieces ++ [piece]) = (.ok .needMore, parser) ∧
          c.read packing piece = ({ c with parser }, [])
      | .refused => c.read packing piece = { c with parser }.fault Response.badRequest
      | .asked request => c.read packing piece = { c with parser }.dispatch request := by
  have fed := Parser.feedAll_concat waits piece
  rw [verdict_of_feedAll packing fed]
  unfold read
  rw [if_neg nonempty]
  rcases result : c.parser.feed piece with ⟨e | _ | _, parser⟩
  · exact ⟨parser, rfl⟩
  · exact ⟨parser, fed.trans result, rfl⟩
  · -- A reader that is done has a message to take out, so the fault of the server itself is never sent.
    have reads : Parser.Reads false (pieces ++ [piece]).flatten _ _ := Parser.reads_feedAll (fed.trans result)
    obtain ⟨m, state⟩ := reads.message
    refine ⟨parser.take.2, ?_⟩
    simp only [accept_of_done (c := { c with parser }) state, Parser.outcome, state, judge]
    rcases ContentCoding.decode packing m with e | request
    · rfl
    · rfl

/-! ### What is answered -/

/-- What is answered: a fault, or what the workers made of a request. -/
inductive Answer
  | fault
  | reply (request : Request) (response : Response)
  deriving Repr, DecidableEq

namespace Answer

/-- The request that is answered, unless the octets were refused. -/
def request? : Answer → Option Request
  | fault => none
  | reply request _ => some request

/-- Whether the connection stays open behind the answer. -/
def keepAlive : Answer → Bool
  | fault => false
  | reply request _ => request.keepAlive

def response : Answer → Response
  | fault => finishResponse false Response.badRequest
  | reply request response => finishResponse request.keepAlive response

/-- The octets that go out: all of the response, or its head for the one who asked for no more. -/
def octets : Answer → Bytes
  | fault => Wire.serialize fault.response
  | reply request response =>
    Connection.octets (request.start.method = .head) (finishResponse request.keepAlive response)

/-- What the octets of the request came to. -/
def verdict : Answer → Verdict
  | fault => .refused
  | reply request _ => .asked request

/-- What brought the answer. -/
def events : Answer → List Event
  | fault => []
  | reply _ response => [.replied response]

end Answer

/-- The answer to what octets came to, if there is one. -/
def Verdict.answer? (respond : Request → Response) : Verdict → Option Answer
  | unfinished => none
  | refused => some .fault
  | asked request => some (.reply request (respond request))

end HttpExchange.Connection
