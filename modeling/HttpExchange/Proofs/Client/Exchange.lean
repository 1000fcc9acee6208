import HttpExchange.Client.Exchange
import HttpExchange.Proofs.Parser.Completion

/-!
What comes of an exchange. While it goes on, its reader has read the pieces that came since the request was
written and nothing else; it ends with a failure or with the unpacked form of the message that these pieces
are, and what others do with the pool meanwhile makes no difference to that.
-/
namespace HttpExchange
open HttpExchange.Parser (Bodied Reads)

namespace RoundTrip

/-- What a reading makes of a round trip. -/
def ofReading : Except ParseError Progress × Parser StatusLine → RoundTrip
  | (.error e, _) => failed (.parse e)
  | (.ok .needMore, parser) => reading parser
  | (.ok .complete, parser) =>
    match parser.take.1 with
    | some response => ended (.ok response)
    | none => failed (.socketRead .messageMissing)

theorem read_eq {piece : Bytes} (nonempty : piece ≠ []) (parser : Parser StatusLine) :
    read parser piece = ofReading (parser.feed piece) := by
  rw [read, if_neg nonempty]
  rcases parser.feed piece with ⟨_ | _ | _, q⟩ <;> rfl

/-- A piece that completes a response ends the round trip with it. -/
theorem read_complete {parser : Parser StatusLine} {piece : Bytes} {m : Response} (nonempty : piece ≠ [])
    (complete : (parser.feed piece).1 = .ok .complete) (taken : (parser.feed piece).2.take.1 = some m) :
    read parser piece = ended (.ok m) := by
  rw [read_eq nonempty]
  rcases fed : parser.feed piece with ⟨progress, q⟩
  rw [fed] at complete taken
  simp only at complete taken
  subst complete
  simp only [ofReading, taken]

theorem step_ended (limit : Duration) (ignore : Bool) (result : Except Failure Response) (event : Event) :
    (ended result).step limit ignore event = ended result := by
  cases event <;> rfl

theorem run_ended (limit : Duration) (ignore : Bool) (result : Except Failure Response) (events : List Event) :
    (ended result).run limit ignore events = ended result := by
  induction events with
  | nil => rfl
  | cons event rest ih =>
    rw [run, List.foldl_cons, step_ended]
    exact ih

/-- Pieces that come in one after the other make of a round trip what reading them in turn comes to. -/
theorem run_received (limit : Duration) (ignore : Bool) {pieces : List Bytes} (nonempty : ∀ piece ∈ pieces, piece ≠ [])
    (parser : Parser StatusLine) :
    (reading parser).run limit ignore (pieces.map .received) = ofReading (parser.feedAll pieces) := by
  induction pieces generalizing parser with
  | nil => rfl
  | cons piece rest ih =>
    have first : (reading parser).step limit ignore (.received piece) = ofReading (parser.feed piece) :=
      read_eq (nonempty piece (by simp)) parser
    rw [List.map_cons, run, List.foldl_cons, first, Parser.feedAll]
    rcases parser.feed piece with ⟨e | _ | _, q⟩
    · exact run_ended ..
    · exact ih (fun piece member => nonempty piece (by simp [member])) q
    · cases taken : q.take.1 with
      | some response =>
        simp only [ofReading, taken]
        exact run_ended ..
      | none =>
        simp only [ofReading, taken]
        exact run_ended ..

/-- A round trip that goes on: its reader was fed all that came and waits for more. -/
inductive Ongoing (ignore : Bool) : RoundTrip → Prop
  | writing : Ongoing ignore .writing
  | reading {parser : Parser StatusLine} {pieces : List Bytes}
      (waits : (Parser.freshIgnoring ignore).feedAll pieces = (.ok .needMore, parser)) :
      Ongoing ignore (.reading parser)

/-- An event ends a round trip or leaves it going on, and it ends well only with a message that was read. -/
theorem Ongoing.step {ignore : Bool} {trip : RoundTrip} (ongoing : Ongoing ignore trip) (limit : Duration)
    (event : Event) :
    Ongoing ignore (trip.step limit ignore event) ∨ (∃ failure, trip.step limit ignore event = failed failure) ∨
      ∃ input m, trip.step limit ignore event = ended (.ok m) ∧
        Reads ignore input (.ok .complete) (.done (some m)) := by
  cases ongoing with
  | writing =>
    cases event with
    | written => exact .inl (Ongoing.reading (show (Parser.freshIgnoring ignore).feedAll [] = _ from rfl))
    | writeFailed cause => exact .inr (.inl ⟨_, rfl⟩)
    | writeExpired => exact .inr (.inl ⟨_, rfl⟩)
    | received piece => exact .inl .writing
    | readFailed cause => exact .inl .writing
    | readExpired => exact .inl .writing
  | @reading parser pieces waits =>
    cases event with
    | written => exact .inl (.reading waits)
    | writeFailed cause => exact .inl (.reading waits)
    | writeExpired => exact .inl (.reading waits)
    | readFailed cause => exact .inr (.inl ⟨_, rfl⟩)
    | readExpired => exact .inr (.inl ⟨_, rfl⟩)
    | received piece =>
      by_cases empty : piece = []
      · exact .inr (.inl ⟨.socketRead .endedEarly, if_pos empty⟩)
      · have read : (RoundTrip.reading parser).step limit ignore (.received piece) = ofReading (parser.feed piece) :=
          read_eq empty parser
        rw [read]
        have fed := Parser.feedAll_concat waits piece
        rcases result : parser.feed piece with ⟨e | _ | _, q⟩
        · exact .inr (.inl ⟨_, rfl⟩)
        · exact .inl (.reading (fed.trans result))
        · obtain ⟨m, taken⟩ := Parser.take_of_complete (fed.trans result)
          refine .inr (.inr ⟨_, m, ?_, Parser.reads_of_take (fed.trans result) taken⟩)
          simp only [ofReading, taken]

end RoundTrip

namespace Exchange
variable {κ : Type}

/-- What becomes of an exchange as events come in. Each of them finds the pool as others have left it. -/
def after (packing : Packing) (x : Exchange κ) (events : List (Pool κ × Event κ)) : Exchange κ :=
  events.foldl (fun x (pool, event) => (x.step packing pool event).exchange) x

/-- An event that comes from the connection, with the pool that it finds. -/
def onTraffic (found : Pool κ × RoundTrip.Event) : Pool κ × Event κ := (found.1, .traffic found.2)

/-- What a round trip that came that far makes of an exchange. -/
def ofTrip (packing : Packing) (x : Exchange κ) (entry : PoolEntry κ) : RoundTrip → Exchange κ
  | .ended (.ok response) => x.finish (ContentCoding.decode packing response)
  | .ended (.error failure) => x.finish (.error failure)
  | trip => x.moved (.talking entry trip)

/-- The pool has no part in what an exchange makes of traffic. -/
theorem step_traffic {x : Exchange κ} {entry : PoolEntry κ} {trip : RoundTrip} (talking : x.stage = .talking entry trip)
    (packing : Packing) (pool : Pool κ) (event : RoundTrip.Event) :
    (x.step packing pool (.traffic event)).exchange =
      x.ofTrip packing entry (trip.step x.settings.readTimeout x.ignoresBody event) := by
  unfold step
  simp only [talking, converse]
  rcases trip.step x.settings.readTimeout x.ignoresBody event with _ | parser | (failure | response)
  · rfl
  · rfl
  · rfl
  · simp only [conclude, ofTrip]
    split_ifs <;> rfl

theorem step_ended {x : Exchange κ} {result : Except Failure Response} (ended : x.stage = .ended result)
    (packing : Packing) (pool : Pool κ) (event : Event κ) : (x.step packing pool event).exchange = x := by
  unfold step
  simp only [ended]

/-- An exchange goes through traffic as its round trip does. -/
theorem after_traffic (packing : Packing) (x : Exchange κ) (entry : PoolEntry κ) (trip : RoundTrip)
    (events : List (Pool κ × RoundTrip.Event)) :
    (x.ofTrip packing entry trip).after packing (events.map onTraffic) =
      x.ofTrip packing entry (trip.run x.settings.readTimeout x.ignoresBody (events.map Prod.snd)) := by
  induction events generalizing trip with
  | nil => rfl
  | cons first rest ih =>
    have onward : ((x.ofTrip packing entry trip).step packing first.1 (.traffic first.2)).exchange =
        x.ofTrip packing entry (trip.step x.settings.readTimeout x.ignoresBody first.2) := by
      rcases trip with _ | parser | (failure | response)
      · exact step_traffic (x := x.moved (.talking entry .writing)) rfl packing first.1 first.2
      · exact step_traffic (x := x.moved (.talking entry (.reading parser))) rfl packing first.1 first.2
      · rw [RoundTrip.step_ended]
        exact step_ended (x := x.finish (.error failure)) rfl packing first.1 _
      · rw [RoundTrip.step_ended]
        exact step_ended (x := x.finish (ContentCoding.decode packing response)) rfl packing first.1 _
    rw [List.map_cons, after, List.foldl_cons]
    simp only [onTraffic, onward]
    exact ih _

theorem ofTrip_writing (packing : Packing) {x : Exchange κ} {entry : PoolEntry κ}
    (talking : x.stage = .talking entry .writing) : x.ofTrip packing entry .writing = x := by
  obtain ⟨endpoint, settings, request, stage⟩ := x
  obtain rfl : stage = .talking entry .writing := talking
  rfl

/-- Once the request is written, a response that comes in pieces is delivered as it is read and unpacked. -/
theorem after_response {x : Exchange κ} {entry : PoolEntry κ} (talking : x.stage = .talking entry .writing)
    {pieces : List Bytes} (nonempty : ∀ piece ∈ pieces, piece ≠ []) {m : Response}
    (reads : Reads x.ignoresBody pieces.flatten (.ok .complete) (.done (some m))) (packing : Packing)
    (events : List (Pool κ × RoundTrip.Event)) (traffic : events.map Prod.snd = .written :: pieces.map .received) :
    (x.after packing (events.map onTraffic)).result? = some (ContentCoding.decode packing m) := by
  have fed := reads.outcome_feed
  rw [← Parser.outcome_feedAll_fresh] at fed
  have taken := Parser.take_of_done (Prod.mk.inj fed).2
  have run : RoundTrip.writing.run x.settings.readTimeout x.ignoresBody (events.map Prod.snd) = .ended (.ok m) := by
    have began : RoundTrip.writing.run x.settings.readTimeout x.ignoresBody (.written :: pieces.map .received) =
        (RoundTrip.reading (.freshIgnoring x.ignoresBody)).run x.settings.readTimeout x.ignoresBody
          (pieces.map .received) := rfl
    rw [traffic, began, RoundTrip.run_received _ _ nonempty]
    rcases result : (Parser.freshIgnoring x.ignoresBody : Parser StatusLine).feedAll pieces with ⟨progress, q⟩
    rw [result] at fed taken
    obtain rfl : progress = .ok .complete := (Prod.mk.inj fed).1
    simp only [RoundTrip.ofReading, taken]
  have onward := after_traffic packing x entry .writing events
  rw [ofTrip_writing packing talking, run] at onward
  rw [onward]
  rfl

/-! ### Whole exchanges -/

theorem claim_cases (x : Exchange κ) (pool : Pool κ) (healthy : κ → Bool) :
    (x.claim pool healthy).exchange = x.moved .opening ∨
      ∃ entry, (x.claim pool healthy).exchange = x.moved (.talking entry .writing) := by
  simp only [claim]
  rcases (pool.claim healthy x.endpoint).entry with _ | entry
  · exact .inl rfl
  · simp only
    split_ifs
    · exact .inr ⟨entry, rfl⟩
    · exact .inl rfl

/-- All that an event can make of an exchange: nothing, the wait for a connection, the start of its round trip,
a failure, or what the round trip goes on to. -/
theorem step_cases (packing : Packing) (x : Exchange κ) (pool : Pool κ) (event : Event κ) :
    let next := (x.step packing pool event).exchange
    next = x ∨ next = x.moved .opening ∨ (∃ entry, next = x.moved (.talking entry .writing)) ∨
      (∃ failure, next = x.finish (.error failure)) ∨
      ∃ entry trip heard, x.stage = .talking entry trip ∧
        next = x.ofTrip packing entry (trip.step x.settings.readTimeout x.ignoresBody heard) := by
  intro next
  cases stage : x.stage with
  | starting =>
    cases event with
    | begin healthy =>
      have same : next = (x.claim pool healthy).exchange := by simp only [next, step, stage]
      rcases x.claim_cases pool healthy with opening | talking
      · exact .inr (.inl (same.trans opening))
      · exact .inr (.inr (.inl (by rwa [same])))
    | cancelled => exact .inr (.inr (.inr (.inl ⟨.cancelled, by simp only [next, step, stage]⟩)))
    | _ => exact .inl (by simp only [next, step, stage])
  | opening =>
    cases event with
    | opened connection =>
      exact .inr (.inr (.inl ⟨⟨connection, x.settings.bufferSize, x.settings.tlsContext⟩, by
        simp only [next, step, stage, startTalking]⟩))
    | openFailed failure => exact .inr (.inr (.inr (.inl ⟨failure, by simp only [next, step, stage]⟩)))
    | cancelled => exact .inr (.inr (.inr (.inl ⟨.cancelled, by simp only [next, step, stage]⟩)))
    | _ => exact .inl (by simp only [next, step, stage])
  | talking entry trip =>
    cases event with
    | traffic heard => exact .inr (.inr (.inr (.inr ⟨entry, trip, heard, rfl, step_traffic stage ..⟩)))
    | cancelled => exact .inr (.inr (.inr (.inl ⟨.cancelled, by simp only [next, step, stage]⟩)))
    | _ => exact .inl (by simp only [next, step, stage])
  | ended result => exact .inl (step_ended stage ..)

/-- An exchange that talks does so in a round trip that goes on. -/
def Engaged (x : Exchange κ) : Prop :=
  ∀ entry trip, x.stage = .talking entry trip → RoundTrip.Ongoing x.ignoresBody trip

theorem Engaged.step {x : Exchange κ} (engaged : x.Engaged) (packing : Packing) (pool : Pool κ) (event : Event κ) :
    (x.step packing pool event).exchange.Engaged := by
  rcases x.step_cases packing pool event with same | opening | ⟨entry, writing⟩ | ⟨failure, failed⟩ |
      ⟨entry, trip, heard, talking, onward⟩
  · rwa [same]
  · rw [opening]
    intro _ _ stage
    cases stage
  · rw [writing]
    intro _ _ stage
    cases stage
    exact .writing
  · rw [failed]
    intro _ _ stage
    cases stage
  · rw [onward]
    rcases (engaged entry trip talking).step x.settings.readTimeout heard with ongoing | ⟨failure, failed⟩ |
        ⟨input, m, complete, -⟩
    · intro _ _ stage
      revert stage ongoing
      rcases trip.step x.settings.readTimeout x.ignoresBody heard with _ | parser | result
      · intro ongoing stage
        cases stage
        exact ongoing
      · intro ongoing stage
        cases stage
        exact ongoing
      · intro ongoing
        cases ongoing
    · rw [failed]
      intro _ _ stage
      cases stage
    · rw [complete]
      intro _ _ stage
      cases stage

theorem Engaged.after {x : Exchange κ} (engaged : x.Engaged) (packing : Packing) (events : List (Pool κ × Event κ)) :
    (x.after packing events).Engaged := by
  induction events generalizing x with
  | nil => exact engaged
  | cons first rest ih => exact ih (engaged.step packing first.1 first.2)

theorem engaged_of_starting {x : Exchange κ} (starting : x.stage = .starting) : x.Engaged := by
  intro _ _ talking
  rw [starting] at talking
  cases talking

/-- A response that an exchange reads was read by the grammar, and is delivered as it unpacks. -/
theorem Engaged.completes {x : Exchange κ} (engaged : x.Engaged) {entry : PoolEntry κ} {trip : RoundTrip}
    (talking : x.stage = .talking entry trip) {heard : RoundTrip.Event} {m : Response}
    (complete : trip.step x.settings.readTimeout x.ignoresBody heard = .ended (.ok m)) (packing : Packing)
    (pool : Pool κ) :
    (∃ input, Reads x.ignoresBody input (.ok .complete) (.done (some m))) ∧
      (x.step packing pool (.traffic heard)).exchange.result? = some (ContentCoding.decode packing m) := by
  constructor
  · rcases (engaged entry trip talking).step x.settings.readTimeout heard with ongoing | ⟨failure, failed⟩ |
        ⟨input, other, completed, reads⟩
    · rw [complete] at ongoing
      cases ongoing
    · rw [complete] at failed
      cases failed
    · rw [complete] at completed
      cases completed
      exact ⟨input, reads⟩
  · rw [step_traffic talking, complete]
    rfl

end Exchange
end HttpExchange
