import HttpExchange.Client.RoundTrip
import HttpExchange.Proofs.Parser.Loose
import HttpExchange.Request
import HttpExchange.Server.Connection

/-!
No reader misses its message. What a reader does that keeps its message in a place of its own does not depend on what
it would do where that place is empty, so it never comes there. Those who read with it, a connection and a round trip,
never feed a reader that is done, and find the message in one that has just become so.
-/
namespace HttpExchange
variable {S : Type}

namespace Parser

/-! ### What a reader that is done holds -/

/-- Nothing is taken out of a reader that is not done. -/
theorem take_of_not_done {p : Parser S} (unfinished : ∀ m, p.awaiting ≠ .done m) : p.take.2 = p := by
  unfold take
  split
  · rename_i m state
    exact absurd state (unfinished m)
  · rfl

variable [StartLine S]

theorem advance_complete_iff (p : Parser S) : p.advance.1 = .ok .complete ↔ ∃ m, p.advance.2.awaiting = .done m := by
  have open_ : ∀ {a : Awaiting S}, a.InHead → ¬ ∃ m, a = .done m := by
    rintro _ head ⟨m, rfl⟩
    exact head
  induction p using line_induction with
  | later p behindHead =>
    obtain ⟨m, state⟩ | ⟨m, state⟩ := Awaiting.body_or_done behindHead
    · rw [advance_body state]
      by_cases full : (m.filled p.pending).isComplete
      · simp [full]
      · simp [full]
    · rw [advance_done state]
      simp [state]
  | unfinished p head none =>
    by_cases fits : p.headLength + p.pending.length ≤ headLimit
    · rw [advance_open head none fits]
      simp [open_ head]
    · rw [advance_open_tooLarge head none (by omega)]
      simp [open_ head]
  | line p i head found ih =>
    by_cases fits : p.headLength + (i + 2) ≤ headLimit
    · rw [advance_line head found fits]
      cases interpret p.ignoreBody (p.pending.take i) p.awaiting with
      | error e => simp [behind, open_ head]
      | ok next => exact ih next
    · rw [advance_line_tooLarge head found (by omega)]
      simp [open_ head]

theorem feed_complete_iff (p : Parser S) (data : Bytes) :
    (p.feed data).1 = .ok .complete ↔ ∃ m, (p.feed data).2.awaiting = .done m := by
  by_cases finished : ∃ m, p.awaiting = .done m
  · obtain ⟨m, state⟩ := finished
    rw [feed_of_done state]
    simp [state]
  · rw [feed_of_not_done fun m state => finished ⟨m, state⟩]
    exact advance_complete_iff (p.extended data)

theorem interpret_ne_taken {ignore : Bool} {line : Bytes} {state next : Awaiting S} (head : state.InHead)
    (read : interpret ignore line state = .ok next) : next ≠ .done none := by
  rcases interpret_ok head read with ⟨-, -, rfl⟩ | ⟨-, -, start, -, rfl⟩ | ⟨-, m, changed, -, -, rfl⟩ |
      ⟨-, m, -, ended, -⟩
  · exact nofun
  · exact nofun
  · exact nofun
  · rcases endHead_ok ended with rfl | ⟨rfl, -⟩
    · exact nofun
    · exact nofun

/-- Reading does not take out the message. -/
theorem advance_ne_taken {p : Parser S} (there : p.awaiting ≠ .done none) : p.advance.2.awaiting ≠ .done none := by
  induction p using line_induction with
  | later p behindHead =>
    obtain ⟨m, state⟩ | ⟨m, state⟩ := Awaiting.body_or_done behindHead
    · rw [advance_body state]
      split_ifs
      · exact nofun
      · exact nofun
    · rw [advance_done state]
      exact there
  | unfinished p head none =>
    by_cases fits : p.headLength + p.pending.length ≤ headLimit
    · rw [advance_open head none fits]
      exact there
    · rw [advance_open_tooLarge head none (by omega)]
      exact there
  | line p i head found ih =>
    by_cases fits : p.headLength + (i + 2) ≤ headLimit
    · rw [advance_line head found fits]
      cases read : interpret p.ignoreBody (p.pending.take i) p.awaiting with
      | error e => exact there
      | ok next => exact ih next (interpret_ne_taken head read)
    · rw [advance_line_tooLarge head found (by omega)]
      exact there

theorem feed_ne_taken {p : Parser S} (there : p.awaiting ≠ .done none) (data : Bytes) :
    (p.feed data).2.awaiting ≠ .done none := by
  by_cases finished : ∃ m, p.awaiting = .done m
  · obtain ⟨m, state⟩ := finished
    rw [feed_of_done state]
    exact there
  · rw [feed_of_not_done fun m state => finished ⟨m, state⟩]
    exact advance_ne_taken (p := p.extended data) there

/-- A reader that has its message has it to be taken out when it is done. -/
theorem take_of_feed_complete {p : Parser S} {data : Bytes} (there : p.awaiting ≠ .done none)
    (complete : (p.feed data).1 = .ok .complete) : ∃ m, (p.feed data).2.take.1 = some m := by
  obtain ⟨m, state⟩ := (feed_complete_iff p data).mp complete
  cases m with
  | none => exact absurd state (feed_ne_taken there data)
  | some m =>
    refine ⟨m, ?_⟩
    rw [take, state]

/-- What a reader needs that is fed: it was called in some way since it was fresh, it is not done, and it has its
message when it becomes so. -/
structure Ready (p : Parser S) : Prop where
  called : ∃ calls, p = fresh.calledAll calls
  unfinished : p.loose.state ≠ .done
  found : ∀ fallback data, (p.loose.feed fallback data).1 = .ok .complete →
    (p.loose.feed fallback data).2.take.1.isSome

theorem calledAll_append (p : Parser S) (calls more : List Call) :
    p.calledAll (calls ++ more) = (p.calledAll calls).calledAll more := List.foldl_append

theorem ready_of_not_done (calls : List Call) (unfinished : ∀ m, (fresh.calledAll calls : Parser S).awaiting ≠ .done m) :
    (fresh.calledAll calls : Parser S).Ready := by
  refine ⟨⟨calls, rfl⟩, ?_, ?_⟩
  · rw [Ne, LooseParser.state_loose_eq_done_iff]
    rintro ⟨m, state⟩
    exact unfinished m state
  · intro fallback data complete
    rw [LooseParser.feed_loose] at complete ⊢
    obtain ⟨m, taken⟩ := take_of_feed_complete (unfinished none) complete
    rw [LooseParser.take_loose, taken]
    rfl

theorem ready_freshIgnoring (ignore : Bool) : (freshIgnoring ignore : Parser S).Ready :=
  ready_of_not_done [.ignore ignore] fun _ => nofun

namespace Ready
variable {p : Parser S}

theorem awaiting_ne (ready : p.Ready) (m : Option (Message S)) : p.awaiting ≠ .done m := by
  intro state
  exact ready.unfinished (LooseParser.state_loose_eq_done_iff.mpr ⟨m, state⟩)

/-- A reader that waits for more may be fed again. -/
theorem feed (ready : p.Ready) (data : Bytes) (waits : (p.feed data).1 = .ok .needMore) : (p.feed data).2.Ready := by
  obtain ⟨calls, rfl⟩ := ready.called
  have fed : (fresh.calledAll calls).feed data = (.ok .needMore, (fresh.calledAll (calls ++ [.feed data]) : Parser S)) := by
    rw [calledAll_append]
    exact Prod.ext waits rfl
  rw [fed]
  refine ready_of_not_done _ fun m state => ?_
  have complete := (feed_complete_iff (fresh.calledAll calls) data).mpr ⟨m, by rw [fed]; exact state⟩
  rw [waits] at complete
  cases complete

theorem take_of_complete (ready : p.Ready) (data : Bytes) (complete : (p.feed data).1 = .ok .complete) :
    ∃ m, (p.feed data).2.take.1 = some m := take_of_feed_complete (ready.awaiting_ne none) complete

end Ready

/-! ### Failures of the start line -/

theorem advance_startLine_error {p : Parser S} {fault : StartLineFault} (failed : p.advance.1 = .error (.startLine fault)) :
    ∃ line, startLine (S := S) line = .error fault := by
  induction p using line_induction with
  | later p behindHead =>
    obtain ⟨m, state⟩ | ⟨m, state⟩ := Awaiting.body_or_done behindHead
    · rw [advance_body state] at failed
      split_ifs at failed
    · rw [advance_done state] at failed
      cases failed
  | unfinished p head none =>
    by_cases fits : p.headLength + p.pending.length ≤ headLimit
    · rw [advance_open head none fits] at failed
      cases failed
    · rw [advance_open_tooLarge head none (by omega)] at failed
      cases failed
  | line p i head found ih =>
    by_cases fits : p.headLength + (i + 2) ≤ headLimit
    · rw [advance_line head found fits] at failed
      cases read : interpret p.ignoreBody (p.pending.take i) p.awaiting with
      | error e =>
        rw [read] at failed
        cases failed
        rcases interpret_error head read with ⟨-, -, other, refused, same⟩ | ⟨-, m, other, -, -, same⟩ |
            ⟨-, m, other, -, -, same⟩
        · cases same
          exact ⟨_, refused⟩
        · cases same
        · cases same
      | ok next =>
        rw [read] at failed
        exact ih next failed
    · rw [advance_line_tooLarge head found (by omega)] at failed
      cases failed

/-- A kind of start line that gives no reasons in words of its own. -/
def Plain (S : Type) [StartLine S] : Prop :=
  ∀ text reason, StartLine.ofText (S := S) text ≠ .error (.described reason)

theorem plain_requestLine : Plain RequestLine := by
  intro text reason refused
  change RequestLine.ofText text = _ at refused
  unfold RequestLine.ofText at refused
  grind

theorem plain_statusLine : Plain StatusLine := by
  intro text reason refused
  change StatusLine.ofText text = _ at refused
  unfold StatusLine.ofText at refused
  grind

theorem feed_ne_described (plain : Plain S) (p : Parser S) (data : Bytes) (reason : String) :
    (p.feed data).1 ≠ .error (.startLine (.described reason)) := by
  intro failed
  by_cases finished : ∃ m, p.awaiting = .done m
  · obtain ⟨m, state⟩ := finished
    rw [feed_of_done state] at failed
    cases failed
  · rw [feed_of_not_done fun m state => finished ⟨m, state⟩] at failed
    obtain ⟨line, refused⟩ := advance_startLine_error failed
    unfold startLine at refused
    split at refused
    · cases refused
    · exact plain _ _ refused

end Parser

/-! ### A reader that could miss its message -/

namespace LooseParser
open HttpExchange.Parser (Call calledAll_append Plain)
variable [StartLine S]

/-- The message was taken out of a reader that was done, and the reader was not reset since. -/
def TakenOut (fallback : Fallback S) (calls : List Call) : Prop :=
  ∃ before later, calls = before ++ .take :: later ∧ .reset ∉ later ∧
    ((fresh : LooseParser S).calledAll fallback before).state = .done

theorem fresh_calledAll (fallback : Fallback S) (calls : List Call) :
    fresh.calledAll fallback calls = (Parser.fresh.calledAll calls).loose := calledAll_loose fallback Parser.fresh calls

theorem TakenOut.concat {fallback : Fallback S} {calls : List Call} {call : Call} (out : TakenOut fallback calls)
    (unreset : call ≠ .reset) : TakenOut fallback (calls ++ [call]) := by
  obtain ⟨before, later, rfl, kept, done⟩ := out
  refine ⟨before, later ++ [call], by simp, ?_, done⟩
  rw [List.mem_append, List.mem_singleton, not_or]
  exact ⟨kept, Ne.symm unreset⟩

theorem takenOut_iff (fallback : Fallback S) (calls : List Call) :
    TakenOut fallback calls ↔ ((Parser.fresh : Parser S).calledAll calls).awaiting = .done none := by
  constructor
  · rintro ⟨before, later, rfl, unreset, done⟩
    rw [fresh_calledAll, state_loose_eq_done_iff] at done
    obtain ⟨m, state⟩ := done
    have kept : ((Parser.fresh : Parser S).calledAll before).Kept := (Parser.kept_fresh.calledAll before).1
    have taken : ((Parser.fresh : Parser S).calledAll before).take.2.awaiting = .done none := by
      rw [Parser.take, state]
    rw [calledAll_append]
    exact ((kept.take.1.calledAll later).2 unreset).taken taken
  · intro out
    induction calls using List.reverseRecOn with
    | nil => cases out
    | append_singleton calls call ih =>
      rw [calledAll_append] at out
      cases call with
      | feed data =>
        refine TakenOut.concat (ih ?_) Call.noConfusion
        by_contra there
        exact Parser.feed_ne_taken there data out
      | ignore flag => exact TakenOut.concat (ih out) Call.noConfusion
      | take =>
        refine ⟨calls, [], rfl, List.not_mem_nil, ?_⟩
        rw [fresh_calledAll, state_loose_eq_done_iff]
        by_contra unfinished
        have same : ((Parser.fresh : Parser S).calledAll calls).take.2 = (Parser.fresh : Parser S).calledAll calls :=
          Parser.take_of_not_done fun m state => unfinished ⟨m, state⟩
        exact unfinished ⟨none, same ▸ out⟩
      | reset => cases out

/-- What holds of a reader that could miss its message, whatever it would do then. -/
structure Guarded (p : LooseParser S) (fallback : Fallback S) (calls : List Call) : Prop where
  /-- The message is there from the start line on, until it is taken out. -/
  present : p.message.isSome ↔ p.state ≠ .awaitingStartLine ∧ ¬ TakenOut fallback calls
  /-- It is taken out of a reader that is done, and that stays so until it is reset. -/
  taken : TakenOut fallback calls → p.state = .done
  /-- The reader is where the reader is that cannot be without its message. -/
  same : p = ((Parser.fresh : Parser S).calledAll calls).loose
  /-- It answers like that one, and so like one that would do anything else. -/
  answers : ∀ (other : Fallback S) (data : Bytes), p.feed other data =
    ((((Parser.fresh : Parser S).calledAll calls).feed data).1, (((Parser.fresh : Parser S).calledAll calls).feed data).2.loose)
  takes : p.take =
    (((Parser.fresh : Parser S).calledAll calls).take.1, ((Parser.fresh : Parser S).calledAll calls).take.2.loose)
  /-- No line of the head is refused for a message that is missed. -/
  unfailing : ∀ data, (p.feed guarded data).1 ≠ .error (guarded (S := S)).head

theorem guarded_calledAll (plain : Plain S) (fallback : Fallback S) (calls : List Call) :
    (fresh.calledAll fallback calls).Guarded fallback calls := by
  have same := fresh_calledAll fallback calls
  rw [same]
  refine ⟨?_, ?_, rfl, ?_, take_loose _, ?_⟩
  · rw [takenOut_iff, message_loose, Parser.message]
    simp only [Parser.loose]
    cases state : ((Parser.fresh : Parser S).calledAll calls).awaiting with
    | startLine => simp [Awaiting.message, Awaiting.state]
    | headers m => simp [Awaiting.message, Awaiting.state]
    | body m => simp [Awaiting.message, Awaiting.state]
    | done m => cases m <;> simp [Awaiting.message, Awaiting.state]
  · rw [takenOut_iff, state_loose_eq_done_iff]
    intro out
    exact ⟨none, out⟩
  · intro other data
    exact feed_loose other _ data
  · intro data
    rw [feed_loose]
    exact Parser.feed_ne_described plain _ data _

/-- A reader whose message is missing would miss it. -/
example : ((⟨.awaitingHeaders, none, [], 0, 0, false⟩ : LooseParser StatusLine).feed guarded [88, 58, 13, 10]).1 =
    .error (guarded (S := StatusLine)).head := by
  decide +kernel

end LooseParser

/-! ### Those who read -/

namespace Connection
variable {packing : Packing} {c : Connection}

/-- What holds of a connection with regard to its reader. -/
structure Provided (packing : Packing) (c : Connection) : Prop where
  ready : c.stage = .reading → c.parser.Ready
  /-- While it reads, the connection answers that a request is bad and nothing else, so no fault of its own. -/
  faultless : c.stage = .reading → ∀ event octets, .send octets ∈ (c.step packing event).2 →
    octets = Connection.octets false (finishResponse false Response.badRequest)

/-- A piece ends the connection, leaves it waiting for more, is answered as a bad request or completes a request. -/
theorem read_of_ready (ready : c.parser.Ready) (packing : Packing) (piece : Bytes) :
    c.read packing piece = c.finish none ∨
      (∃ parser, parser.Ready ∧ c.read packing piece = ({ c with parser }, [])) ∨
      (∃ parser, c.read packing piece = { c with parser }.fault Response.badRequest) ∨
      ∃ parser request, c.read packing piece = { c with parser }.dispatch request := by
  unfold read
  by_cases empty : piece = []
  · exact .inl (if_pos empty)
  · rw [if_neg empty]
    have waits := ready.feed piece
    have found := ready.take_of_complete piece
    rcases fed : c.parser.feed piece with ⟨e | _ | _, q⟩
    · exact .inr (.inr (.inl ⟨q, rfl⟩))
    · rw [fed] at waits
      exact .inr (.inl ⟨q, waits rfl, rfl⟩)
    · rw [fed] at found
      obtain ⟨request, taken⟩ := found rfl
      simp only [accept, taken]
      cases ContentCoding.decode packing request with
      | error e => exact .inr (.inr (.inl ⟨q.take.2, rfl⟩))
      | ok request => exact .inr (.inr (.inr ⟨q.take.2, request, rfl⟩))

theorem step_ready (ready : c.stage = .reading → c.parser.Ready) (packing : Packing) (event : Event)
    (reading : (c.step packing event).1.stage = .reading) : (c.step packing event).1.parser.Ready := by
  unfold step at reading ⊢
  split at reading
  · exact ready reading
  · cases reading
  · rename_i stage
    rcases read_of_ready (ready stage) packing _ with ended | ⟨q, waits, read⟩ | ⟨q, read⟩ | ⟨q, request, read⟩
    · rw [ended] at reading
      cases reading
    · simp only [read]
      exact waits
    · rw [read] at reading
      cases reading
    · rw [read] at reading
      cases reading
  · cases reading
  · cases reading
  · cases reading
  · by_cases keeps : c.keepAlive = true
    · simp only [if_pos keeps]
      exact Parser.ready_freshIgnoring false
    · rw [if_neg keeps] at reading
      cases reading
  · cases reading
  · exact ready reading

theorem run_ready (ready : c.stage = .reading → c.parser.Ready) (packing : Packing) (events : List Event)
    (reading : (c.run packing events).1.stage = .reading) : (c.run packing events).1.parser.Ready := by
  induction events generalizing c with
  | nil => exact ready reading
  | cons event rest ih => exact ih (step_ready ready packing event) reading

/-- A connection that reads sends nothing but that a request is bad. -/
theorem octets_of_read {piece octets : Bytes} (ready : c.parser.Ready)
    (sent : .send octets ∈ (c.read packing piece).2) :
    octets = Connection.octets false (finishResponse false Response.badRequest) := by
  rcases read_of_ready ready packing piece with ended | ⟨q, -, read⟩ | ⟨q, read⟩ | ⟨q, request, read⟩
  · rw [ended] at sent
    simp [finish] at sent
  · simp [read] at sent
  · rw [read] at sent
    simpa [fault, startWriting] using sent
  · rw [read] at sent
    simp [dispatch] at sent

theorem provided_of_ready (ready : c.stage = .reading → c.parser.Ready) (packing : Packing) : c.Provided packing := by
  refine ⟨ready, ?_⟩
  intro reading event octets sent
  unfold step at sent
  rw [reading] at sent
  cases event with
  | received piece => exact octets_of_read (ready reading) sent
  | readFailed cause => simp [finish] at sent
  | expired => simp [finish] at sent
  | replied response => simp at sent
  | unanswered => simp at sent
  | written => simp at sent
  | writeFailed cause => simp at sent

end Connection

namespace RoundTrip
variable {limit : Duration} {ignore : Bool} {trip : RoundTrip} {before : List Event}

/-- What holds of a round trip with regard to its reader, behind some events. -/
structure Provided (before : List Event) (trip : RoundTrip) : Prop where
  ready : ∀ parser, trip = .reading parser → parser.Ready
  /-- That a message is missing is said of a round trip only where the connection said so. -/
  faultless : trip = failed (.socketRead .messageMissing) → .readFailed .messageMissing ∈ before

theorem provided_of_failed {failure : Failure} (other : failure ≠ .socketRead .messageMissing) :
    Provided before (failed failure) := by
  refine ⟨nofun, fun same => ?_⟩
  rw [failed, failed, ended.injEq, Except.error.injEq] at same
  exact absurd same other

theorem provided_of_read {parser : Parser StatusLine} (ready : parser.Ready) (piece : Bytes) :
    Provided before (read parser piece) := by
  unfold read
  by_cases empty : piece = []
  · rw [if_pos empty]
    exact provided_of_failed nofun
  · rw [if_neg empty]
    have waits := ready.feed piece
    have found := ready.take_of_complete piece
    rcases fed : parser.feed piece with ⟨e | _ | _, q⟩
    · exact provided_of_failed nofun
    · rw [fed] at waits
      refine ⟨?_, nofun⟩
      rintro _ ⟨⟩
      exact waits rfl
    · rw [fed] at found
      obtain ⟨response, taken⟩ := found rfl
      simp only [taken]
      exact ⟨nofun, nofun⟩

theorem Provided.more {event : Event} (provided : trip.Provided before) : trip.Provided (before ++ [event]) :=
  ⟨provided.ready, fun missing => List.mem_append_left _ (provided.faultless missing)⟩

theorem Provided.step (provided : trip.Provided before) (limit : Duration) (ignore : Bool) (event : Event) :
    (trip.step limit ignore event).Provided (before ++ [event]) := by
  unfold RoundTrip.step
  split
  · refine ⟨?_, nofun⟩
    rintro _ ⟨⟩
    exact Parser.ready_freshIgnoring ignore
  · exact provided_of_failed nofun
  · exact provided_of_failed nofun
  · exact provided_of_read (provided.ready _ rfl) _
  · refine ⟨nofun, fun same => ?_⟩
    rw [failed, failed, ended.injEq, Except.error.injEq, Failure.socketRead.injEq] at same
    rw [same]
    exact List.mem_append_right _ (List.mem_singleton_self _)
  · exact provided_of_failed nofun
  · exact provided.more

theorem Provided.run (provided : trip.Provided before) (limit : Duration) (ignore : Bool) (events : List Event) :
    (trip.run limit ignore events).Provided (before ++ events) := by
  induction events generalizing trip before with
  | nil => rwa [List.append_nil]
  | cons event rest ih =>
    rw [List.append_cons]
    exact ih (provided.step limit ignore event)

end RoundTrip

/-- Whatever is called on a reader of either kind, and whatever it would do if it missed its message, it never does;
and no connection and no round trip finds a reader done that has no message. -/
theorem message_never_missed :
    (∀ (fallback : LooseParser.Fallback RequestLine) (calls : List Parser.Call),
      (LooseParser.fresh.calledAll fallback calls).Guarded fallback calls) ∧
    (∀ (fallback : LooseParser.Fallback StatusLine) (calls : List Parser.Call),
      (LooseParser.fresh.calledAll fallback calls).Guarded fallback calls) ∧
    (∀ (packing : Packing) (events : List Connection.Event),
      (Connection.fresh.run packing events).1.Provided packing) ∧
    ∀ (limit : Duration) (ignore : Bool) (events : List RoundTrip.Event),
      (RoundTrip.writing.run limit ignore events).Provided events := by
  refine ⟨?_, ?_, ?_, ?_⟩
  · exact LooseParser.guarded_calledAll Parser.plain_requestLine
  · exact LooseParser.guarded_calledAll Parser.plain_statusLine
  · intro packing events
    refine Connection.provided_of_ready ?_ packing
    exact Connection.run_ready (fun _ => Parser.ready_freshIgnoring false) packing events
  · intro limit ignore events
    have start : RoundTrip.writing.Provided [] := ⟨nofun, nofun⟩
    exact start.run limit ignore events

end HttpExchange
