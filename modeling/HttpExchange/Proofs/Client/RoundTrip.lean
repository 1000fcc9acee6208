import HttpExchange.Client.Session
import HttpExchange.Proofs.Client.Custody
import HttpExchange.Proofs.Client.Exchange
import HttpExchange.Proofs.Client.Sharing

/-!
What a round trip comes to. It is judged by how the write ended, by the octets that came before anything kept more
from coming, and by what that was (`Judged`); neither the size of the buffer nor the cuts between the reads have a
part in it. Every connection is read with room for an octet, whoever opened it, so that a read without octets is the
end and nothing else.
-/
namespace HttpExchange

/-! ### What happens on a connection -/

/-- How the write of a request ends. -/
inductive WriteEnd
  | whole
  | failed (cause : SystemFault)
  | expired
  deriving Repr, DecidableEq

/-- What keeps octets from coming. -/
inductive Halt
  | ended
  | failed (cause : SystemFault)
  | expired
  deriving Repr, DecidableEq

/-- What comes to a reader: octets that are there at once, or what keeps more from coming. -/
inductive Arrival
  | octets (burst : Bytes)
  | halted (cause : Halt)
  deriving Repr, DecidableEq

/-- What happens on a connection with a request on its way: how the write ends, and what comes after it. -/
structure Traffic where
  write : WriteEnd
  arrivals : List Arrival
  deriving Repr, DecidableEq

/-- The end of a write as an event. -/
def WriteEnd.event : WriteEnd → RoundTrip.Event
  | whole => .written
  | failed cause => .writeFailed cause
  | expired => .writeExpired

/-- What a read learns if no more octets come. -/
def Halt.event : Halt → RoundTrip.Event
  | ended => .received []
  | failed cause => .readFailed cause
  | expired => .readExpired

namespace Arrival

/-- The octets that come before anything keeps more from coming. -/
def delivered : List Arrival → Bytes
  | octets burst :: later => burst ++ delivered later
  | _ => []

/-- What keeps more from coming behind these octets, if anything does. -/
def halt? : List Arrival → Option Halt
  | octets _ :: later => halt? later
  | halted cause :: _ => some cause
  | [] => none

/-- What reads may learn of arrivals, with a buffer of some size: every read takes an octet at least and as many as
the buffer holds at most, or it learns that no more come. -/
inductive Read (size : Nat) : List Arrival → List RoundTrip.Event → Prop
  | nil : Read size [] []
  | octets {burst : Bytes} {pieces : List Bytes} {later : List Arrival} {events : List RoundTrip.Event}
      (whole : pieces.flatten = burst) (held : ∀ piece ∈ pieces, piece ≠ [] ∧ piece.length ≤ size)
      (onward : Read size later events) :
      Read size (octets burst :: later) (pieces.map RoundTrip.Event.received ++ events)
  | halted {cause : Halt} {later : List Arrival} {events : List RoundTrip.Event} (onward : Read size later events) :
      Read size (halted cause :: later) (cause.event :: events)

/-- With room for an octet all that comes can be read. -/
theorem exists_read {size : Nat} (positive : 0 < size) (arrivals : List Arrival) :
    ∃ events, Read size arrivals events := by
  induction arrivals with
  | nil => exact ⟨[], .nil⟩
  | cons arrival later ih =>
    obtain ⟨events, onward⟩ := ih
    cases arrival with
    | halted cause => exact ⟨_, .halted onward⟩
    | octets burst =>
      have whole : (burst.map fun octet => [octet]).flatten = burst := by simp [← List.flatMap_def]
      refine ⟨_, .octets whole ?_ onward⟩
      intro piece member
      obtain ⟨octet, -, rfl⟩ := List.mem_map.mp member
      exact ⟨List.cons_ne_nil _ _, positive⟩

/-- Reads take the octets that come in pieces, and then learn what keeps more from coming. -/
theorem Read.split {size : Nat} {arrivals : List Arrival} {events : List RoundTrip.Event}
    (read : Read size arrivals events) :
    ∃ (pieces : List Bytes) (rest : List RoundTrip.Event), events = pieces.map RoundTrip.Event.received ++ rest ∧
      (∀ piece ∈ pieces, piece ≠ []) ∧ pieces.flatten = delivered arrivals ∧
      rest.head? = (halt? arrivals).map Halt.event := by
  induction read with
  | nil => exact ⟨[], [], rfl, by simp, rfl, rfl⟩
  | @octets burst pieces later events whole held onward ih =>
    obtain ⟨more, rest, rfl, nonempty, flat, next⟩ := ih
    refine ⟨pieces ++ more, rest, by simp, ?_, ?_, next⟩
    · exact List.forall_mem_append.mpr ⟨fun piece member => (held piece member).1, nonempty⟩
    · rw [List.flatten_append, whole, flat]
      rfl
  | halted onward => exact ⟨[], _, rfl, by simp, rfl, rfl⟩

end Arrival

namespace Traffic
open Arrival (delivered halt?)

/-- What an exchange with a buffer of some size may learn of the traffic. -/
inductive Occurs (size : Nat) (traffic : Traffic) : List RoundTrip.Event → Prop
  | intro {events : List RoundTrip.Event} (read : Arrival.Read size traffic.arrivals events) :
      Occurs size traffic (traffic.write.event :: events)

/-- What a fresh reader makes of all octets at once that came before anything kept more from coming. -/
def reading (traffic : Traffic) (ignore : Bool) : Except ParseError Progress × Option Response :=
  let (progress, parser) := (Parser.freshIgnoring ignore).feed (delivered traffic.arrivals)
  (progress, parser.message)

/-- The request was written, and before the response was read something kept more octets from coming. -/
def HaltedBy (traffic : Traffic) (ignore : Bool) (cause : Halt) : Prop :=
  traffic.write = .whole ∧ (traffic.reading ignore).1 = .ok .needMore ∧ halt? traffic.arrivals = some cause

/-- How a round trip fails if no more octets come. -/
def haltFailure (limit : Duration) : Halt → Failure
  | .ended => .socketRead .endedEarly
  | .failed cause => .socketRead cause
  | .expired => .timeout .read limit

/-- The result of a reading, and of what kept it from going on. -/
def concluded (limit : Duration) : Except ParseError Progress × Option Response → Option Halt →
    Option (Except Failure Response)
  | (.error e, _), _ => some (.error (.parse e))
  | (.ok .complete, some response), _ => some (.ok response)
  | (.ok .complete, none), _ => some (.error (.socketRead .messageMissing))
  | (.ok .needMore, _), halt => halt.map fun cause => .error (haltFailure limit cause)

/-- The result of a round trip in the traffic. -/
def result (traffic : Traffic) (limit : Duration) (ignore : Bool) : Option (Except Failure Response) :=
  match traffic.write with
  | .whole => concluded limit (traffic.reading ignore) (halt? traffic.arrivals)
  | .failed cause => some (.error (.socketWrite cause))
  | .expired => some (.error (.timeout .write limit))

/-- A response that is complete is there. -/
theorem reading_complete {traffic : Traffic} {ignore : Bool} (complete : (traffic.reading ignore).1 = .ok .complete) :
    ∃ response, (traffic.reading ignore).2 = some response := by
  have reads : Parser.Reads ignore (delivered traffic.arrivals) (traffic.reading ignore).1
      ((Parser.freshIgnoring ignore).feed (delivered traffic.arrivals)).2.awaiting := Parser.reads_feed ..
  rw [complete] at reads
  obtain ⟨response, state⟩ := reads.message
  exact ⟨response, congrArg Awaiting.message state⟩

/-- How a result stands to its traffic. Each kind of result comes of one kind of traffic and of no other. -/
structure Judged (limit : Duration) (ignore : Bool) (traffic : Traffic) (result : Option (Except Failure Response)) :
    Prop where
  /-- A response is what the octets that came before anything kept more from coming are read as at once. -/
  answered : ∀ response, result = some (.ok response) ↔
    traffic.write = .whole ∧ traffic.reading ignore = (.ok .complete, some response)
  /-- These octets cannot be read. -/
  unreadable : ∀ e, result = some (.error (.parse e)) ↔
    traffic.write = .whole ∧ (traffic.reading ignore).1 = .error e
  /-- Time ran out in the write, or with a response that was not read. -/
  timedOut : ∀ operation after, result = some (.error (.timeout operation after)) ↔
    (.write = operation ∧ traffic.write = .expired ∨ .read = operation ∧ traffic.HaltedBy ignore .expired) ∧
      limit = after
  /-- The socket failed in the write. -/
  writeFailed : ∀ cause, result = some (.error (.socketWrite cause)) ↔ traffic.write = .failed cause
  /-- The socket failed or ended with a response that was not read. -/
  readFailed : ∀ cause, result = some (.error (.socketRead cause)) ↔
    traffic.HaltedBy ignore (.failed cause) ∨ .endedEarly = cause ∧ traffic.HaltedBy ignore .ended
  /-- Without a result more octets may come. -/
  waiting : result = none ↔
    traffic.write = .whole ∧ (traffic.reading ignore).1 = .ok .needMore ∧ halt? traffic.arrivals = none
  /-- A failure passes for a timeout if time ran out. -/
  timeout : ∀ failure, result = some (.error failure) →
    (failure.isTimeout ↔ traffic.write = .expired ∨ traffic.HaltedBy ignore .expired)
  /-- A failure passes for a lost connection if the socket failed or ended. -/
  lost : ∀ failure, result = some (.error failure) →
    (failure.isConnectionLost ↔ (∃ cause, traffic.write = .failed cause ∨ traffic.HaltedBy ignore (.failed cause)) ∨
      traffic.HaltedBy ignore .ended)
  /-- No failure passes for both. -/
  exclusive : ∀ failure, result = some (.error failure) → ¬ (failure.isTimeout ∧ failure.isConnectionLost)

/-- The result of a round trip stands to its traffic as it should. -/
theorem judged_result (limit : Duration) (ignore : Bool) (traffic : Traffic) :
    traffic.Judged limit ignore (traffic.result limit ignore) := by
  unfold result
  cases write : traffic.write with
  | failed cause => constructor <;> simp [HaltedBy, write, Failure.isTimeout, Failure.isConnectionLost]
  | expired => constructor <;> simp [HaltedBy, write, Failure.isTimeout, Failure.isConnectionLost]
  | whole =>
    rcases read : traffic.reading ignore with ⟨e | _ | _, message⟩
    · constructor <;> simp [HaltedBy, write, read, concluded, Failure.isTimeout, Failure.isConnectionLost]
    · cases halted : halt? traffic.arrivals with
      | none => constructor <;> simp [HaltedBy, write, read, halted, concluded]
      | some cause =>
        cases cause <;> constructor <;>
          simp [HaltedBy, write, read, halted, concluded, haltFailure, Failure.isTimeout, Failure.isConnectionLost]
    · have complete : (traffic.reading ignore).1 = .ok .complete := by rw [read]
      obtain ⟨response, there⟩ := reading_complete complete
      obtain rfl : message = some response := by rwa [read] at there
      constructor <;> simp [HaltedBy, write, read, concluded]

end Traffic

namespace RoundTrip
open Arrival (delivered halt?)
open Traffic (concluded haltFailure)

/-! ### The course of a round trip -/

theorem run_append (limit : Duration) (ignore : Bool) (trip : RoundTrip) (events more : List Event) :
    trip.run limit ignore (events ++ more) = (trip.run limit ignore events).run limit ignore more := List.foldl_append

/-- A reader that waits is kept from going on. -/
theorem result?_run_halt (limit : Duration) (ignore : Bool) (parser : Parser StatusLine) (cause : Halt)
    (later : List Event) :
    ((reading parser).run limit ignore (cause.event :: later)).result? = some (.error (haltFailure limit cause)) := by
  have step : (reading parser).step limit ignore cause.event = failed (haltFailure limit cause) := by
    cases cause <;> rfl
  rw [run, List.foldl_cons, step]
  exact congrArg result? (run_ended limit ignore _ later)

/-- What a response comes to is settled by the octets that came, all at once, and by what kept more from coming. -/
theorem result?_run_reading (limit : Duration) (ignore : Bool) {size : Nat} {traffic : Traffic} {events : List Event}
    (read : Arrival.Read size traffic.arrivals events) :
    ((reading (.freshIgnoring ignore)).run limit ignore events).result? =
      concluded limit (traffic.reading ignore) (halt? traffic.arrivals) := by
  obtain ⟨pieces, rest, rfl, nonempty, whole, next⟩ := read.split
  rw [run_append, run_received limit ignore nonempty]
  rcases fed : (Parser.freshIgnoring ignore : Parser StatusLine).feedAll pieces with ⟨progress, q⟩
  have once : traffic.reading ignore = (progress, q.message) := by
    have same := Parser.outcome_feedAll_fresh (S := StatusLine) ignore pieces
    rw [fed, whole] at same
    exact (congrArg (fun outcome => (outcome.1, outcome.2.message)) same).symm
  rw [once]
  rcases progress with e | _ | _
  · exact congrArg result? (run_ended limit ignore _ rest)
  · cases rest with
    | nil =>
      rw [show halt? traffic.arrivals = none by simpa using next.symm]
      rfl
    | cons event later =>
      obtain ⟨cause, halted, rfl⟩ := Option.map_eq_some_iff.mp next.symm
      rw [halted]
      exact result?_run_halt limit ignore q cause later
  · obtain ⟨response, taken⟩ := Parser.take_of_complete fed
    have message : q.message = some response := Parser.message_of_take taken
    simp only [ofReading, taken, message]
    exact congrArg result? (run_ended limit ignore _ rest)

/-- A round trip comes to the result that its traffic has, with every buffer and every cut. -/
theorem result?_run {limit : Duration} {ignore : Bool} {size : Nat} {traffic : Traffic} {events : List Event}
    (occurs : traffic.Occurs size events) :
    (writing.run limit ignore events).result? = traffic.result limit ignore := by
  obtain ⟨read⟩ := occurs
  unfold Traffic.result
  cases write : traffic.write with
  | whole => exact result?_run_reading limit ignore read
  | failed cause => exact congrArg result? (run_ended limit ignore _ _)
  | expired => exact congrArg result? (run_ended limit ignore _ _)

end RoundTrip

namespace Exchange
variable {κ : Type}

/-- An exchange ends when its round trip does, with the response unpacked. -/
theorem result?_ofTrip (packing : Packing) (x : Exchange κ) (entry : PoolEntry κ) (trip : RoundTrip) :
    (x.ofTrip packing entry trip).result? = trip.result?.map (·.bind (ContentCoding.decode packing)) := by
  rcases trip with _ | parser | (failure | response) <;> rfl

theorem after_ended {x : Exchange κ} {result : Except Failure Response} (ended : x.stage = .ended result)
    (packing : Packing) (events : List (Pool κ × Event κ)) : x.after packing events = x := by
  induction events with
  | nil => rfl
  | cons first rest ih =>
    change (x.step packing first.1 first.2).exchange.after packing rest = x
    rw [step_ended ended]
    exact ih

/-- Once there is a result nothing changes it. -/
theorem after_append_of_result? {packing : Packing} {x : Exchange κ} {events : List (Pool κ × Event κ)}
    (ended : ((x.after packing events).result?).isSome) (later : List (Pool κ × Event κ)) :
    x.after packing (events ++ later) = x.after packing events := by
  obtain ⟨result, stage⟩ : ∃ result, (x.after packing events).stage = .ended result := by
    unfold result? at ended
    split at ended
    · exact ⟨_, ‹_›⟩
    · cases ended
  have onward : x.after packing (events ++ later) = (x.after packing events).after packing later := List.foldl_append
  exact onward.trans (after_ended stage packing later)

end Exchange

/-! ### Room for an octet -/

/-- A read with room for an octet gives none only at the end of what the other end sends. -/
theorem Socket.isExhausted_of_read {socket later : Socket} {size : Nat} (positive : 0 < size)
    (reads : socket.read size = .ok (some ([], later))) :
    ∃ stream, socket.stream = some stream ∧ stream.isExhausted := by
  obtain ⟨stream, here, empty, -⟩ := Line.read_eq reads
  have nothing : stream.arrived = [] := by
    rcases List.take_eq_nil_iff.mp empty.symm with none | nothing
    · omega
    · exact nothing
  have saidGoodbye : stream.peerEnded = true := by
    by_contra silent
    rw [Bool.not_eq_true] at silent
    simp [Socket.read, here, Stream.isQuiet, nothing, silent, positive.ne'] at reads
  exact ⟨stream, here, by simp [Stream.isExhausted, nothing, saidGoodbye]⟩

/-- Every connection in the pool is read with room for an octet. -/
def Pool.Roomy {κ : Type} (pool : Pool κ) : Prop :=
  ∀ (endpoint : Endpoint) (entry : PoolEntry κ), (endpoint, entry) ∈ pool.entries → 0 < entry.bufferSize

namespace Exchange
variable {κ : Type} {packing : Packing} {x : Exchange κ} {pool : Pool κ} {event : Event κ} {outcome : Outcome κ}

/-- An exchange reads with room for an octet: from the connection it talks on, and from one that it opens. -/
structure Roomy (x : Exchange κ) : Prop where
  settings : 0 < x.settings.bufferSize
  talking : ∀ (entry : PoolEntry κ) (trip : RoundTrip), x.stage = .talking entry trip → 0 < entry.bufferSize

theorem Roomy.moved (roomy : x.Roomy) {stage : ExchangeStage κ}
    (talking : ∀ (entry : PoolEntry κ) (trip : RoundTrip), stage = .talking entry trip → 0 < entry.bufferSize) :
    (x.moved stage).Roomy := ⟨roomy.settings, talking⟩

/-- An exchange that a session makes leaves room for an octet, whatever size it was given. -/
theorem roomy_of_exchange {session : Session κ} {request : ClientRequest}
    (made : session.exchange request = .ok x) : x.Roomy := by
  unfold Session.exchange at made
  cases found : Endpoint.ofUrl request.url with
  | error failure => simp [found, Except.map] at made
  | ok endpoint =>
    obtain rfl := Except.ok.inj (found ▸ made)
    exact ⟨Nat.lt_of_lt_of_le Nat.zero_lt_one (Nat.le_max_right _ _), fun entry trip talking => by cases talking⟩

/-- An exchange takes and leaves connections with room for an octet. -/
theorem Step.roomy (step : Step packing x pool event outcome) (roomy : x.Roomy) (pooled : pool.Roomy) :
    outcome.exchange.Roomy ∧ outcome.pool.Roomy := by
  constructor
  · cases step with
    | ignored => exact roomy
    | claims starting found =>
      refine roomy.moved fun entry trip talking => ?_
      cases talking
      exact pooled _ _ (Pool.mem_of_find? found)
    | opens =>
      refine roomy.moved fun entry trip talking => ?_
      cases talking
      exact roomy.settings
    | goesOn talking =>
      refine roomy.moved fun entry trip goingOn => ?_
      cases goingOn
      exact roomy.talking _ _ talking
    | _ =>
      refine roomy.moved fun entry trip talking => ?_
      cases talking
  · intro endpoint entry member
    rcases step.pooled member with before | ⟨-, trip, heard, response, talking, -, -⟩
    · exact pooled endpoint entry before
    · exact roomy.talking entry trip talking

end Exchange

namespace Sharing
variable {packing : Packing} {s s' : Sharing} {action : Action}

/-- Every connection that is idle or talked on is read with room for an octet. -/
structure Roomy (s : Sharing) : Prop where
  pool : s.pool.Roomy
  parties : ∀ party ∈ s.parties, party.exchange.Roomy

theorem Roomy.set (roomy : s.Roomy) {pool : Pool Nat} (pooled : pool.Roomy) (i : Nat) {x : Exchange Nat}
    (fits : x.Roomy) (news : Option RoundTrip.Event) (orders : List (Exchange.Command Nat)) (lines : List Line) :
    Roomy ⟨pool, s.parties.set i ⟨x, news, orders⟩, lines⟩ where
  pool := pooled
  parties other member := by
    rcases List.mem_or_eq_of_mem_set member with before | rfl
    · exact roomy.parties other before
    · exact fits

theorem Roomy.party (roomy : s.Roomy) {i : Nat} {party : Party} (found : s.parties[i]? = some party) :
    party.exchange.Roomy := roomy.parties party (List.mem_of_getElem? found)

theorem Roomy.deliver (roomy : s.Roomy) {i : Nat} {party : Party} (fits : party.exchange.Roomy)
    (packing : Packing) (event : Exchange.Event Nat) (lines : List Line) :
    (({ s with lines } : Sharing).deliver packing i party event).Roomy := by
  obtain ⟨onward, pooled⟩ := (Exchange.step_outcome packing party.exchange s.pool event).roomy fits roomy.pool
  exact roomy.set pooled i onward ..

theorem Roomy.step (roomy : s.Roomy) (step : Step packing s action s') : s'.Roomy := by
  cases step with
  | begin found => exact roomy.deliver (roomy.party found) packing _ _
  | opened found => exact roomy.deliver (roomy.party found) packing _ _
  | openFailed found => exact roomy.deliver (roomy.party found) packing _ _
  | react found => exact roomy.deliver (roomy.party found) packing _ _
  | obey found => exact roomy.set roomy.pool _ (roomy.party found) ..
  | traffic found => exact roomy.set roomy.pool _ (roomy.party found) ..
  | read found => exact roomy.set roomy.pool _ (roomy.party found) ..
  | cancelled found gaveUp =>
    have step := gaveUp ▸ Exchange.step_outcome packing _ s.pool .cancelled
    obtain ⟨onward, pooled⟩ := step.roomy (roomy.party found) roomy.pool
    exact roomy.set pooled _ onward ..
  | answered => exact ⟨roomy.pool, roomy.parties⟩
  | hungUp => exact ⟨roomy.pool, roomy.parties⟩
  | stirred => exact ⟨roomy.pool, roomy.parties⟩
  | remove => exact ⟨fun other entry member => roomy.pool other entry (Pool.mem_without.mp member).1, roomy.parties⟩
  | clear => exact ⟨fun _ _ member => absurd member List.not_mem_nil, roomy.parties⟩

theorem Roomy.run (roomy : s.Roomy) (packing : Packing) (actions : List Action) : (s.run packing actions).Roomy := by
  induction actions generalizing s with
  | nil => exact roomy
  | cons action rest ih =>
    refine ih ?_
    rcases step_after packing s action with same | step
    · exact same.symm ▸ roomy
    · exact roomy.step step

theorem roomy_start {exchanges : List (Exchange Nat)} (fits : ∀ x ∈ exchanges, x.Roomy) : (start exchanges).Roomy where
  pool := nofun
  parties party member := by
    obtain ⟨x, here, rfl⟩ := List.mem_map.mp member
    exact (fits x here).moved fun entry trip talking => by cases talking

/-- However exchanges share connections, what one of them comes to is judged by its traffic alone: by no buffer size,
no cut between reads, and nothing that happens once there is a result. -/
theorem run_judged (packing : Packing) {exchanges : List (Exchange Nat)}
    (made : ∀ x ∈ exchanges, ∃ (session : Session Nat) (request : ClientRequest), session.exchange request = .ok x)
    (actions : List Action) {i : Nat} {party : Party} {entry : PoolEntry Nat}
    (present : ((start exchanges).run packing actions).parties[i]? = some party)
    (talking : party.exchange.stage = .talking entry .writing) (traffic : Traffic) :
    let x := party.exchange
    (∃ events, traffic.Occurs entry.bufferSize events) ∧
      (∀ socket later : Socket, socket.read entry.bufferSize = .ok (some ([], later)) →
        ∃ stream, socket.stream = some stream ∧ stream.isExhausted) ∧
      ∃ result, traffic.Judged x.settings.readTimeout x.ignoresBody result ∧
        ∀ (size : Nat) (events : List (Pool Nat × RoundTrip.Event)), traffic.Occurs size (events.map Prod.snd) →
          (RoundTrip.writing.run x.settings.readTimeout x.ignoresBody (events.map Prod.snd)).result? = result ∧
            (x.after packing (events.map Exchange.onTraffic)).result? =
              result.map (·.bind (ContentCoding.decode packing)) ∧
            (result.isSome → ∀ later, x.after packing (events.map Exchange.onTraffic ++ later) =
              x.after packing (events.map Exchange.onTraffic)) := by
  intro x
  have roomy : ((start exchanges).run packing actions).Roomy := by
    refine (roomy_start fun x member => ?_).run packing actions
    obtain ⟨session, request, makes⟩ := made x member
    exact Exchange.roomy_of_exchange makes
  have positive : 0 < entry.bufferSize := (roomy.party present).talking entry _ talking
  refine ⟨?_, fun socket later reads => Socket.isExhausted_of_read positive reads,
    traffic.result x.settings.readTimeout x.ignoresBody, Traffic.judged_result .., fun size events occurs => ?_⟩
  · obtain ⟨events, read⟩ := Arrival.exists_read positive traffic.arrivals
    exact ⟨_, .intro read⟩
  · have trip : (RoundTrip.writing.run x.settings.readTimeout x.ignoresBody (events.map Prod.snd)).result? =
        traffic.result x.settings.readTimeout x.ignoresBody := RoundTrip.result?_run occurs
    have course := Exchange.after_traffic packing x entry .writing events
    rw [Exchange.ofTrip_writing packing talking] at course
    have result : (x.after packing (events.map Exchange.onTraffic)).result? =
        (traffic.result x.settings.readTimeout x.ignoresBody).map (·.bind (ContentCoding.decode packing)) := by
      rw [course, Exchange.result?_ofTrip, trip]
    refine ⟨trip, result, fun ended later => Exchange.after_append_of_result? ?_ later⟩
    rw [result, Option.isSome_map]
    exact ended

/-- A request that asks for a buffer without room is answered at once, and the connection falls silent. The response is
read octet by octet, and the silence is not noticed. -/
theorem run_judged_octets :
    let session : Session Nat := .make ⟨none, none, none, none, none⟩
    let request : ClientRequest := ⟨.get, ⟨"http", true, "", some (.name "a"), none, "/", none, none⟩, ⟨[]⟩, [],
      ⟨some 0, none, none, none⟩⟩
    let came := Utf8.encode "HTTP/1.1 200 OK\r\nContent-Length: 2\r\n\r\nok"
    let traffic : Traffic := ⟨.whole, [.octets came, .halted .expired]⟩
    let heard : List RoundTrip.Event := .written :: ((came.map fun octet => [octet]).map .received ++ [.readExpired])
    let page : Response := ⟨⟨.ok, "OK", "HTTP/1.1"⟩, ⟨[⟨"Content-Length", "2"⟩]⟩, some 2, [111, 107]⟩
    ∃ x, session.exchange request = .ok x ∧
      ∃ party entry, ((start [x]).run .standard [.begin 0, .obey 0, .opened 0, .obey 0]).parties[0]? = some party ∧
        party.exchange.stage = .talking entry .writing ∧ traffic.Occurs entry.bufferSize heard ∧
          (party.exchange.after .standard ((heard.map (Prod.mk .empty)).map Exchange.onTraffic)).result? =
            some (.ok page) := by
  intro session request came traffic heard page
  have occurs : traffic.Occurs 1 heard := by
    refine .intro (.octets ?_ ?_ (.halted .nil))
    · decide +kernel
    · intro piece member
      obtain ⟨octet, -, rfl⟩ := List.mem_map.mp member
      exact ⟨List.cons_ne_nil _ _, Nat.le_refl 1⟩
  refine ⟨_, rfl, _, _, rfl, rfl, occurs, ?_⟩
  obtain ⟨-, -, result, judged, course⟩ := run_judged .standard
    (fun x (member : x ∈ [_]) => ⟨session, request, List.mem_singleton.mp member ▸ rfl⟩)
    [.begin 0, .obey 0, .opened 0, .obey 0] (i := 0) rfl rfl traffic
  have answered : result = some (.ok page) := (judged.answered page).mpr ⟨rfl, by decide +kernel⟩
  obtain ⟨-, delivered, -⟩ := course 1 (heard.map (Prod.mk .empty)) (by rw [List.map_map]; simpa using occurs)
  rw [delivered, answered]
  rfl

end Sharing
end HttpExchange
