import HttpExchange.Proofs.Replacement
import HttpExchange.Proofs.Server.Framing
import HttpExchange.Proofs.Server.Reading

/-!
The life of a connection. Whatever happens to it, what it takes in and what it does fall into cycles: the pieces
of one request, at most one job, at most one response, and an end if the connection does not stay open. What a
cycle does is a function of how it went (`Cycle.effects`), and how it may go is settled by the octets that were
read in it alone (`Cycle.Lawful`). The proof grows the last cycle event by event (`Cycle.Stands.step`).
-/
namespace HttpExchange.Connection

/-! ### What is taken in -/

/-- Whether a connection waits for an event. The time limit may run out up to the end. -/
def awaits (c : Connection) (event : Event) : Bool :=
  match c.stage, event with
  | .closed, _ => false
  | _, .expired => true
  | .reading, .received _ | .reading, .readFailed _ => true
  | .queued, .replied _ | .queued, .unanswered => true
  | .writing _, .written | .writing _, .writeFailed _ => true
  | _, _ => false

/-- The events that a connection takes in, of those that happen. -/
def heeded (packing : Packing) (c : Connection) : List Event → List Event
  | [] => []
  | event :: rest =>
    let later := heeded packing (c.step packing event).1 rest
    if c.awaits event then event :: later else later

theorem step_of_not_awaits {c : Connection} {event : Event} (ignored : c.awaits event = false) (packing : Packing) :
    c.step packing event = (c, []) := by
  unfold awaits at ignored
  unfold step
  generalize c.stage = stage at ignored ⊢
  cases stage <;> cases event <;> first | rfl | cases ignored

theorem run_cons (packing : Packing) (c : Connection) (event : Event) (rest : List Event) :
    c.run packing (event :: rest) =
      (((c.step packing event).1.run packing rest).1,
        (c.step packing event).2 ++ ((c.step packing event).1.run packing rest).2) := rfl

theorem run_of_closed {c : Connection} (closed : c.stage = .closed) (packing : Packing) (events : List Event) :
    c.run packing events = (c, []) := by
  induction events with
  | nil => rfl
  | cons event rest ih =>
    have ignored : c.awaits event = false := by simp [awaits, closed]
    rw [run_cons, step_of_not_awaits ignored, ih]
    rfl

/-- What is left out changes nothing. -/
theorem run_heeded (packing : Packing) (c : Connection) (events : List Event) :
    c.run packing (c.heeded packing events) = c.run packing events := by
  induction events generalizing c with
  | nil => rfl
  | cons event rest ih =>
    rw [heeded]
    by_cases awaited : c.awaits event
    · rw [if_pos awaited, run_cons, run_cons, ih]
    · rw [if_neg awaited, run_cons, step_of_not_awaits (Bool.eq_false_iff.mpr awaited)]
      exact ih c

/-! ### Cycles -/

/-- How far the octets of an answer came. -/
inductive Transfer
  | underway
  | whole
  | broken (cause : SystemFault)
  | expired
  deriving Repr, DecidableEq

/-- How a cycle went on behind the pieces that were read. -/
inductive Course
  | reading
  | hungUp
  | broken (cause : SystemFault)
  | expired
  | queued (request : Request)
  | dropped (request : Request)
  | lapsed (request : Request)
  | answered (answer : Answer) (transfer : Transfer)
  deriving Repr, DecidableEq

/-- One request with its response, as far as they came. -/
structure Cycle where
  pieces : List Bytes
  course : Course
  deriving Repr, DecidableEq

/-- The goodbye at the end of a connection. -/
def farewell : List Effect := [.shutdown, .close, .ended none]

/-- An end without a goodbye. -/
def parting (failure : Option Failure) : List Effect := [.close, .ended failure]

/-- What happened to an answer on its way. -/
def Transfer.events : Transfer → List Event
  | underway => []
  | whole => [.written]
  | broken cause => [.writeFailed cause]
  | expired => [.expired]

/-- How a connection ends behind an answer, if it does. -/
def Transfer.ending (keepAlive : Bool) : Transfer → List Effect
  | underway => []
  | whole => if keepAlive then [] else farewell
  | broken cause => parting (some (.socketWrite cause))
  | expired => parting none

namespace Course

/-- What happened behind the pieces. -/
def events : Course → List Event
  | reading => []
  | hungUp => [.received []]
  | broken cause => [.readFailed cause]
  | expired => [.expired]
  | queued _ => []
  | dropped _ => [.unanswered]
  | lapsed _ => [.expired]
  | answered answer transfer => answer.events ++ transfer.events

/-- The request that was handed out. -/
def request? : Course → Option Request
  | queued request | dropped request | lapsed request => some request
  | answered answer _ => answer.request?
  | _ => none

def answer? : Course → Option Answer
  | answered answer _ => some answer
  | _ => none

/-- How the connection ends, if it does. -/
def ending : Course → List Effect
  | reading => []
  | hungUp => parting none
  | broken cause => parting (some (.socketRead cause))
  | expired => parting none
  | queued _ => []
  | dropped _ => farewell
  | lapsed _ => parting none
  | answered answer transfer => transfer.ending answer.keepAlive

/-- What the octets of the request came to. -/
def verdict : Course → Verdict
  | queued request | dropped request | lapsed request => .asked request
  | answered answer _ => answer.verdict
  | _ => .unfinished

/-- Whether the connection stayed open behind the answer. -/
def StaysOpen (course : Course) : Prop := ∃ answer, course = .answered answer .whole ∧ answer.keepAlive = true

end Course

namespace Cycle

def events (cycle : Cycle) : List Event := cycle.pieces.map .received ++ cycle.course.events

/-- The job and the answer of a cycle. -/
def work (cycle : Cycle) : List Effect :=
  (cycle.course.request?.map Effect.enqueue).toList ++
    (cycle.course.answer?.map fun answer => Effect.send answer.octets).toList

/-- What the connection did in a cycle: it handed out a request, sent an answer, and ended, each at most once. -/
def effects (cycle : Cycle) : List Effect := cycle.work ++ cycle.course.ending

/-- A cycle that went as a fresh reader judges its octets. No piece was read behind those that settle it. -/
structure Lawful (packing : Packing) (cycle : Cycle) : Prop where
  nonempty : ∀ piece ∈ cycle.pieces, piece ≠ []
  waited : ∀ before after, cycle.pieces = before ++ after → after ≠ [] → verdict packing before.flatten = .unfinished
  judged : cycle.course.verdict = verdict packing cycle.pieces.flatten

/-- A connection that is where its last cycle came to. -/
inductive Stands : Cycle → Connection → Prop
  | reading {c : Connection} {pieces : List Bytes} (stage : c.stage = .reading)
      (waits : Parser.fresh.feedAll pieces = (.ok .needMore, c.parser)) : Stands ⟨pieces, .reading⟩ c
  | queued {c : Connection} {pieces : List Bytes} {request : Request} (stage : c.stage = .queued)
      (keeps : c.keepAlive = request.keepAlive) (head : c.headOnly = decide (request.start.method = .head)) :
      Stands ⟨pieces, .queued request⟩ c
  | writing {c : Connection} {pieces : List Bytes} {answer : Answer} (stage : c.stage = .writing answer.octets)
      (keeps : c.keepAlive = answer.keepAlive) : Stands ⟨pieces, .answered answer .underway⟩ c
  | closed {c : Connection} {cycle : Cycle} (stage : c.stage = .closed) (ended : cycle.course.ending ≠ []) :
      Stands cycle c

/-- A cycle that takes in one more event, with what the connection does about it. -/
structure Grows (packing : Packing) (cycle grown : Cycle) (event : Event) (effects : List Effect) : Prop where
  lawful : grown.Lawful packing
  events : grown.events = cycle.events ++ [event]
  effects : grown.effects = cycle.effects ++ effects

/-! ### One event -/

variable {packing : Packing} {c : Connection} {pieces : List Bytes} {event : Event}

theorem Lawful.course {course other : Course} (lawful : Lawful packing ⟨pieces, course⟩)
    (same : other.verdict = course.verdict) : Lawful packing ⟨pieces, other⟩ :=
  ⟨lawful.nonempty, lawful.waited, same.trans lawful.judged⟩

/-- A piece is read as long as those before it settle nothing. -/
theorem Lawful.piece (lawful : Lawful packing ⟨pieces, .reading⟩) {piece : Bytes} (nonempty : piece ≠ [])
    {course : Course} (judged : course.verdict = Connection.verdict packing (pieces ++ [piece]).flatten) :
    Lawful packing ⟨pieces ++ [piece], course⟩ where
  nonempty := List.forall_mem_append.mpr ⟨lawful.nonempty, List.forall_mem_singleton.mpr nonempty⟩
  waited before after split proper := by
    obtain ⟨inner, final, rfl⟩ := (List.eq_nil_or_concat' after).resolve_left proper
    obtain ⟨rfl, -⟩ := List.append_inj' (split.trans (List.append_assoc ..).symm) rfl
    -- What lies before is all the pieces so far, or a part of them that was waited behind before.
    by_cases all : inner = []
    · rw [all, List.append_nil] at lawful
      exact lawful.judged.symm
    · exact lawful.waited before inner rfl all
  judged := judged

/-- A request that is being read goes on with a piece as its octets say, and ends where no piece comes. -/
theorem step_reading (stage : c.stage = .reading) (waits : Parser.fresh.feedAll pieces = (.ok .needMore, c.parser))
    (lawful : Lawful packing ⟨pieces, .reading⟩) (awaited : c.awaits event = true) :
    ∃ grown, Grows packing ⟨pieces, .reading⟩ grown event (c.step packing event).2 ∧
      grown.Stands (c.step packing event).1 := by
  unfold awaits at awaited
  unfold step
  rw [stage] at awaited ⊢
  cases event with
  | received piece =>
    simp only
    by_cases empty : piece = []
    · rw [read, if_pos empty, empty]
      exact ⟨⟨pieces, .hungUp⟩, ⟨lawful.course rfl, by simp [events, Course.events], rfl⟩,
        .closed rfl (List.cons_ne_nil _ _)⟩
    · obtain ⟨parser, goesOn⟩ := read_verdict packing waits empty
      have grows : ∀ course : Course, course.verdict = Connection.verdict packing (pieces ++ [piece]).flatten →
          course.events = [] → (⟨pieces ++ [piece], course⟩ : Cycle).effects = (c.read packing piece).2 →
          Grows packing ⟨pieces, .reading⟩ ⟨pieces ++ [piece], course⟩ (.received piece) (c.read packing piece).2 :=
        fun course judged quiet effects =>
          ⟨lawful.piece empty judged, by rw [events, quiet]; simp [events, Course.events], effects⟩
      cases judged : Connection.verdict packing (pieces ++ [piece]).flatten with
      | unfinished =>
        simp only [judged] at goesOn
        rw [judged, goesOn.2] at grows
        rw [goesOn.2]
        exact ⟨_, grows .reading rfl rfl rfl, .reading stage goesOn.1⟩
      | refused =>
        simp only [judged] at goesOn
        rw [judged, goesOn] at grows
        rw [goesOn]
        exact ⟨_, grows (.answered .fault .underway) rfl rfl rfl, .writing rfl rfl⟩
      | asked request =>
        simp only [judged] at goesOn
        rw [judged, goesOn] at grows
        rw [goesOn]
        exact ⟨_, grows (.queued request) rfl rfl rfl, .queued rfl rfl rfl⟩
  | readFailed cause =>
    exact ⟨⟨pieces, .broken cause⟩, ⟨lawful.course rfl, by simp [events, Course.events], rfl⟩,
      .closed rfl (List.cons_ne_nil _ _)⟩
  | expired =>
    exact ⟨⟨pieces, .expired⟩, ⟨lawful.course rfl, by simp [events, Course.events], rfl⟩,
      .closed rfl (List.cons_ne_nil _ _)⟩
  | replied response => cases awaited
  | unanswered => cases awaited
  | written => cases awaited
  | writeFailed cause => cases awaited

/-- A request that was handed out is answered or dropped. -/
theorem step_queued {request : Request} (stage : c.stage = .queued) (keeps : c.keepAlive = request.keepAlive)
    (head : c.headOnly = decide (request.start.method = .head)) (lawful : Lawful packing ⟨pieces, .queued request⟩)
    (awaited : c.awaits event = true) :
    ∃ grown, Grows packing ⟨pieces, .queued request⟩ grown event (c.step packing event).2 ∧
      grown.Stands (c.step packing event).1 := by
  unfold awaits at awaited
  unfold step
  rw [stage] at awaited ⊢
  cases event with
  | replied response =>
    have sent : Connection.octets c.headOnly (finishResponse c.keepAlive response) =
        (Answer.reply request response).octets := by
      rw [keeps, head]
      rfl
    simp only [sent]
    exact ⟨⟨pieces, .answered (.reply request response) .underway⟩,
      ⟨lawful.course rfl, by simp [events, Course.events, Answer.events, Transfer.events], rfl⟩, .writing rfl keeps⟩
  | unanswered =>
    exact ⟨⟨pieces, .dropped request⟩, ⟨lawful.course rfl, by simp [events, Course.events], rfl⟩,
      .closed rfl (List.cons_ne_nil _ _)⟩
  | expired =>
    exact ⟨⟨pieces, .lapsed request⟩, ⟨lawful.course rfl, by simp [events, Course.events], rfl⟩,
      .closed rfl (List.cons_ne_nil _ _)⟩
  | received piece => cases awaited
  | readFailed cause => cases awaited
  | written => cases awaited
  | writeFailed cause => cases awaited

/-- An answer that is on its way comes whole or is cut. Where it comes whole and the connection stays open, a new
cycle begins with a fresh reader. -/
theorem step_writing {answer : Answer} (stage : c.stage = .writing answer.octets)
    (keeps : c.keepAlive = answer.keepAlive) (lawful : Lawful packing ⟨pieces, .answered answer .underway⟩)
    (awaited : c.awaits event = true) :
    ∃ grown, Grows packing ⟨pieces, .answered answer .underway⟩ grown event (c.step packing event).2 ∧
      (grown.Stands (c.step packing event).1 ∨
        grown.course.StaysOpen ∧ Stands ⟨[], .reading⟩ (c.step packing event).1) := by
  have grows : ∀ transfer : Transfer, transfer.events = [event] →
      transfer.ending answer.keepAlive = (c.step packing event).2 →
      Grows packing ⟨pieces, .answered answer .underway⟩ ⟨pieces, .answered answer transfer⟩ event
        (c.step packing event).2 := by
    intro transfer happens ends
    refine ⟨lawful.course rfl, ?_, ?_⟩
    · rw [events, Course.events, happens]
      simp [events, Course.events, Transfer.events]
    · rw [← ends]
      simp [effects, work, Course.request?, Course.answer?, Course.ending, Transfer.ending]
  unfold awaits at awaited
  unfold step at grows ⊢
  rw [stage] at awaited grows ⊢
  cases event with
  | written =>
    simp only at grows ⊢
    by_cases stays : c.keepAlive = true
    · -- The reader is reset, so the cycle that follows has read nothing.
      rw [if_pos stays] at grows ⊢
      rw [keeps] at stays
      exact ⟨_, grows .whole rfl (if_pos stays), .inr ⟨⟨answer, rfl, stays⟩, .reading rfl rfl⟩⟩
    · rw [if_neg stays] at grows ⊢
      rw [keeps] at stays
      have ends : Transfer.whole.ending answer.keepAlive = farewell := if_neg stays
      refine ⟨_, grows .whole rfl ends, .inl (.closed rfl ?_)⟩
      rw [Course.ending, ends]
      exact List.cons_ne_nil _ _
  | writeFailed cause => exact ⟨_, grows (.broken cause) rfl rfl, .inl (.closed rfl (List.cons_ne_nil _ _))⟩
  | expired => exact ⟨_, grows .expired rfl rfl, .inl (.closed rfl (List.cons_ne_nil _ _))⟩
  | received piece => cases awaited
  | readFailed cause => cases awaited
  | replied response => cases awaited
  | unanswered => cases awaited

/-- The last cycle takes in what the connection waits for, and ends where the connection ends or begins anew. -/
theorem Stands.step {last : Cycle} (stands : last.Stands c) (lawful : last.Lawful packing)
    (awaited : c.awaits event = true) :
    ∃ grown, Grows packing last grown event (c.step packing event).2 ∧
      (grown.Stands (c.step packing event).1 ∨
        grown.course.StaysOpen ∧ Stands ⟨[], .reading⟩ (c.step packing event).1) := by
  cases stands with
  | reading stage waits =>
    obtain ⟨grown, grows, stands⟩ := step_reading stage waits lawful awaited
    exact ⟨grown, grows, .inl stands⟩
  | queued stage keeps head =>
    obtain ⟨grown, grows, stands⟩ := step_queued stage keeps head lawful awaited
    exact ⟨grown, grows, .inl stands⟩
  | writing stage keeps => exact step_writing stage keeps lawful awaited
  | closed stage ended => simp [awaits, stage] at awaited

end Cycle

/-! ### Whole runs -/

/-- The cycles that a connection went through, up to the one it is in. -/
structure History (packing : Packing) (heard : List Event) (did : List Effect) (c : Connection)
    (earlier : List Cycle) (last : Cycle) : Prop where
  happened : heard = (earlier ++ [last]).flatMap Cycle.events
  done : did = (earlier ++ [last]).flatMap Cycle.effects
  lawful : ∀ cycle ∈ earlier ++ [last], cycle.Lawful packing
  stayed : ∀ cycle ∈ earlier, cycle.course.StaysOpen
  stands : last.Stands c

namespace History
variable {packing : Packing} {heard : List Event} {did : List Effect} {c : Connection} {earlier : List Cycle}
  {last : Cycle}

theorem begin (packing : Packing) : History packing [] [] fresh [] ⟨[], .reading⟩ where
  happened := rfl
  done := rfl
  lawful := List.forall_mem_singleton.mpr ⟨by simp, by simp, (verdict_nil packing).symm⟩
  stayed cycle member := by cases member
  stands := .reading rfl rfl

/-- The last cycle may grow, and a new one may follow it. -/
theorem grown (history : History packing heard did c earlier last) {grown : Cycle} {event : Event}
    {effects : List Effect} (grows : Cycle.Grows packing last grown event effects) :
    heard ++ [event] = (earlier ++ [grown]).flatMap Cycle.events ∧
      did ++ effects = (earlier ++ [grown]).flatMap Cycle.effects ∧
      ∀ cycle ∈ earlier ++ [grown], cycle.Lawful packing := by
  obtain ⟨before, -⟩ := List.forall_mem_append.mp history.lawful
  refine ⟨?_, ?_, List.forall_mem_append.mpr ⟨before, List.forall_mem_singleton.mpr grows.lawful⟩⟩
  · rw [history.happened, List.flatMap_append, List.flatMap_append, List.append_assoc, List.flatMap_singleton,
      List.flatMap_singleton, grows.events]
  · rw [history.done, List.flatMap_append, List.flatMap_append, List.append_assoc, List.flatMap_singleton,
      List.flatMap_singleton, grows.effects]

theorem step (history : History packing heard did c earlier last) {event : Event} (awaited : c.awaits event = true) :
    ∃ earlier last, History packing (heard ++ [event]) (did ++ (c.step packing event).2) (c.step packing event).1
      earlier last := by
  obtain ⟨grown, grows, stands | ⟨stays, stands⟩⟩ :=
    history.stands.step (history.lawful last (by simp)) awaited
  · obtain ⟨happened, effects, lawful⟩ := history.grown grows
    exact ⟨earlier, grown, happened, effects, lawful, history.stayed, stands⟩
  · obtain ⟨happened, effects, lawful⟩ := history.grown grows
    refine ⟨earlier ++ [grown], ⟨[], .reading⟩, ?_, ?_, ?_, ?_, stands⟩
    · have none : Cycle.events ⟨[], .reading⟩ = [] := rfl
      simp [happened, none]
    · have none : Cycle.effects ⟨[], .reading⟩ = [] := rfl
      simp [effects, none]
    · exact List.forall_mem_append.mpr ⟨lawful, (begin packing).lawful⟩
    · exact List.forall_mem_append.mpr ⟨history.stayed, List.forall_mem_singleton.mpr stays⟩

theorem run (history : History packing heard did c earlier last) (events : List Event) :
    ∃ earlier last, History packing (heard ++ c.heeded packing events) (did ++ (c.run packing events).2)
      (c.run packing events).1 earlier last := by
  induction events generalizing c heard did earlier last with
  | nil => exact ⟨earlier, last, by simpa [heeded, Connection.run] using history⟩
  | cons event rest ih =>
    rw [heeded, run_cons]
    by_cases awaited : c.awaits event = true
    · obtain ⟨before, next, further⟩ := history.step awaited
      rw [if_pos awaited]
      simpa using ih further
    · have same := step_of_not_awaits (Bool.eq_false_iff.mpr awaited) packing
      rw [if_neg awaited, same]
      exact ih history

end History

/-! ### What follows for a run -/

/-- The request that an effect hands out. -/
def Effect.job? : Effect → Option Request
  | enqueue request => some request
  | _ => none

/-- The octets that an effect sends. -/
def Effect.octets? : Effect → Option Bytes
  | send octets => some octets
  | _ => none

theorem Course.ending_cases (course : Course) :
    course.ending = [] ∨ course.ending = farewell ∨ ∃ failure, course.ending = parting failure := by
  have transferred (keepAlive : Bool) (transfer : Transfer) : transfer.ending keepAlive = [] ∨
      transfer.ending keepAlive = farewell ∨ ∃ failure, transfer.ending keepAlive = parting failure := by
    cases transfer with
    | underway => exact .inl rfl
    | whole =>
      cases keepAlive with
      | true => exact .inl rfl
      | false => exact .inr (.inl rfl)
    | broken cause => exact .inr (.inr ⟨_, rfl⟩)
    | expired => exact .inr (.inr ⟨_, rfl⟩)
  cases course with
  | reading => exact .inl rfl
  | hungUp => exact .inr (.inr ⟨_, rfl⟩)
  | broken cause => exact .inr (.inr ⟨_, rfl⟩)
  | expired => exact .inr (.inr ⟨_, rfl⟩)
  | queued request => exact .inl rfl
  | dropped request => exact .inr (.inl rfl)
  | lapsed request => exact .inr (.inr ⟨_, rfl⟩)
  | answered answer transfer => exact transferred answer.keepAlive transfer

theorem Course.StaysOpen.ending {course : Course} (stays : course.StaysOpen) : course.ending = [] := by
  obtain ⟨answer, rfl, keeps⟩ := stays
  exact if_pos keeps

theorem Course.request?_eq_some_iff {course : Course} {request : Request} :
    course.request? = some request ↔ course.verdict = .asked request := by
  cases course with
  | answered answer transfer => cases answer <;> simp [request?, verdict, Answer.request?, Answer.verdict]
  | _ => simp [request?, verdict]

/-- The end of a connection hands nothing out and sends nothing. -/
theorem Cycle.filterMap_effects {α : Type} {projection : Effect → Option α} (shutdown : projection .shutdown = none)
    (close : projection .close = none) (ended : ∀ failure, projection (.ended failure) = none) (cycle : Cycle) :
    cycle.effects.filterMap projection = cycle.work.filterMap projection := by
  have none : cycle.course.ending.filterMap projection = [] := by
    rcases cycle.course.ending_cases with same | same | ⟨failure, same⟩
    · simp [same]
    · simp [same, farewell, shutdown, close, ended]
    · simp [same, parting, close, ended]
  rw [effects, List.filterMap_append, none, List.append_nil]

theorem Cycle.filterMap_job? (cycle : Cycle) : cycle.effects.filterMap Effect.job? = cycle.course.request?.toList := by
  rw [filterMap_effects rfl rfl (fun _ => rfl), work]
  cases cycle.course.request? <;> cases cycle.course.answer? <;> rfl

theorem Cycle.filterMap_octets? (cycle : Cycle) :
    cycle.effects.filterMap Effect.octets? = (cycle.course.answer?.map Answer.octets).toList := by
  rw [filterMap_effects rfl rfl (fun _ => rfl), work]
  cases cycle.course.request? <;> cases cycle.course.answer? <;> rfl

theorem Cycle.mem_work {cycle : Cycle} {effect : Effect} (member : effect ∈ cycle.work) :
    (∃ request, effect = .enqueue request) ∨ ∃ octets, effect = .send octets := by
  rw [work, List.mem_append, Option.mem_toList, Option.mem_toList] at member
  rcases member with job | sent
  · obtain ⟨request, -, same⟩ := Option.mem_map.mp job
    exact .inl ⟨request, same.symm⟩
  · obtain ⟨answer, -, same⟩ := Option.mem_map.mp sent
    exact .inr ⟨answer.octets, same.symm⟩

theorem Cycle.Stands.closed_iff {last : Cycle} {c : Connection} (stands : last.Stands c) :
    c.stage = .closed ↔ last.course.ending ≠ [] := by
  cases stands with
  | reading stage => simp [stage, Course.ending]
  | queued stage => simp [stage, Course.ending]
  | writing stage => simp [stage, Course.ending, Transfer.ending]
  | closed stage ended => simp [stage, ended]

theorem Cycle.Stands.queued_iff {last : Cycle} {c : Connection} (stands : last.Stands c) :
    c.stage = .queued ↔ ∃ request, last.course = .queued request := by
  cases stands with
  | reading stage => simp [stage]
  | queued stage => simp [stage]
  | writing stage => simp [stage]
  | closed stage ended =>
    refine iff_of_false (by simp [stage]) ?_
    rintro ⟨request, course⟩
    exact ended (by rw [course]; rfl)

theorem Cycle.Stands.of_reading {last : Cycle} {c : Connection} (stands : last.Stands c) (reading : c.stage = .reading) :
    last.course = .reading ∧ Parser.fresh.feedAll last.pieces = (.ok .needMore, c.parser) := by
  cases stands with
  | reading stage waits => exact ⟨rfl, waits⟩
  | queued stage => simp [stage] at reading
  | writing stage => simp [stage] at reading
  | closed stage => simp [stage] at reading

theorem Cycle.Stands.not_staysOpen {last : Cycle} {c : Connection} (stands : last.Stands c) :
    ¬ last.course.StaysOpen := by
  rintro ⟨answer, course, keeps⟩
  cases stands with
  | reading stage => cases course
  | queued stage => cases course
  | writing stage => cases course
  | closed stage ended => exact ended (Course.StaysOpen.ending ⟨answer, course, keeps⟩)

/-- A cycle is the last one, or it is among those before. -/
theorem last_or_earlier {earlier before after : List Cycle} {last cycle : Cycle}
    (split : earlier ++ [last] = before ++ cycle :: after) :
    after = [] ∧ cycle = last ∨ after ≠ [] ∧ cycle ∈ earlier := by
  rcases Replacement.concat_eq_append_cons_iff.mp split with ⟨-, same, none⟩ | ⟨rest, rfl, rfl⟩
  · exact .inl ⟨none, same⟩
  · exact .inr ⟨by simp, by simp⟩

/-- The law of a life: what a connection that went through some cycles did, and where it stands. -/
structure LifeCycle (packing : Packing) (heard : List Event) (did : List Effect) (c : Connection)
    (earlier : List Cycle) (last : Cycle) : Prop extends History packing heard did c earlier last where
  /-- Jobs are handed out cycle by cycle, -/
  jobs : did.filterMap Effect.job? = (earlier ++ [last]).filterMap fun cycle => cycle.course.request?
  /-- one for each request that was read and unpacked. -/
  asked : ∀ cycle ∈ earlier ++ [last], ∀ request,
    cycle.course.request? = some request ↔ verdict packing cycle.pieces.flatten = .asked request
  /-- Only the last one may wait for its answer, -/
  outstanding : ∀ before cycle after request, earlier ++ [last] = before ++ cycle :: after →
    cycle.course = .queued request → after = [] ∧ c.stage = .queued
  /-- and while it does nothing is read. -/
  deaf : c.stage = .queued → ∀ piece, c.step packing (.received piece) = (c, [])
  /-- Answers are sent cycle by cycle. -/
  output : did.filterMap Effect.octets? =
    (earlier ++ [last]).filterMap fun cycle => cycle.course.answer?.map Answer.octets
  /-- Only the last one may be cut. -/
  whole : ∀ before cycle after answer transfer, earlier ++ [last] = before ++ cycle :: after →
    cycle.course = .answered answer transfer → transfer = .whole ∨ after = []
  /-- Octets that are refused are answered with a fault and without a job. -/
  refused : ∀ cycle ∈ earlier ++ [last], verdict packing cycle.pieces.flatten = .refused →
    ∃ transfer : Transfer, cycle.effects = .send Answer.fault.octets :: transfer.ending false
  /-- A request that is dropped is not answered. -/
  dropped : ∀ cycle ∈ earlier ++ [last], ∀ request, cycle.course = .dropped request →
    cycle.effects = .enqueue request :: farewell
  /-- An answer that keeps the connection open has a cycle behind it, and one that does not is the end. -/
  keepAlive : ∀ before cycle after answer, earlier ++ [last] = before ++ cycle :: after →
    cycle.course = .answered answer .whole →
      answer.response.headers.get? "Connection" = some "Keep-Alive" ∧ after ≠ [] ∨
        answer.response.headers.get? "Connection" = some "Close" ∧ after = [] ∧ c.stage = .closed
  /-- A cycle is read by a reader that was fresh at its begin. -/
  reread : c.stage = .reading → last.course = .reading ∧ Parser.fresh.feedAll last.pieces = (.ok .needMore, c.parser)
  /-- Nothing happens behind the end, -/
  silent : c.stage = .closed → ∀ events, c.run packing events = (c, [])
  /-- which is where a run returns, -/
  returned : ∀ failure, Effect.ended failure ∈ did → c.stage = .closed
  /-- with the transport closed just before, once. -/
  closed : c.stage = .closed → ∃ before failure, did = before ++ [.close, .ended failure] ∧
    Effect.close ∉ before ∧ ∀ other, Effect.ended other ∉ before

namespace History
variable {packing : Packing} {heard : List Event} {did : List Effect} {c : Connection} {earlier : List Cycle}
  {last : Cycle}

theorem asked (history : History packing heard did c earlier last) {cycle : Cycle}
    (member : cycle ∈ earlier ++ [last]) (request : Request) :
    cycle.course.request? = some request ↔ verdict packing cycle.pieces.flatten = .asked request := by
  rw [Course.request?_eq_some_iff, (history.lawful cycle member).judged]

theorem refused (history : History packing heard did c earlier last) {cycle : Cycle}
    (member : cycle ∈ earlier ++ [last]) (refused : verdict packing cycle.pieces.flatten = .refused) :
    ∃ transfer : Transfer, cycle.effects = .send Answer.fault.octets :: transfer.ending false := by
  have judged := (history.lawful cycle member).judged
  rw [refused] at judged
  obtain ⟨pieces, course⟩ := cycle
  cases course with
  | answered answer transfer =>
    cases answer with
    | fault => exact ⟨transfer, rfl⟩
    | reply request response => cases judged
  | _ => cases judged

/-- What is answered whole either keeps the connection open, and is answered in an earlier cycle, or ends it. -/
theorem keepAlive (history : History packing heard did c earlier last) {before after : List Cycle} {cycle : Cycle}
    {answer : Answer} (split : earlier ++ [last] = before ++ cycle :: after)
    (course : cycle.course = .answered answer .whole) :
    answer.response.headers.get? "Connection" = some "Keep-Alive" ∧ after ≠ [] ∨
      answer.response.headers.get? "Connection" = some "Close" ∧ after = [] ∧ c.stage = .closed := by
  have header : answer.response.headers.get? "Connection" = some (if answer.keepAlive then "Keep-Alive" else "Close") := by
    cases answer with
    | fault => exact get?_connection false _
    | reply request response => exact get?_connection request.keepAlive response
  rw [header]
  by_cases keeps : answer.keepAlive = true
  · rw [if_pos keeps]
    refine .inl ⟨rfl, ?_⟩
    rcases last_or_earlier split with ⟨-, rfl⟩ | ⟨proper, -⟩
    · exact absurd ⟨answer, course, keeps⟩ history.stands.not_staysOpen
    · exact proper
  · rw [if_neg keeps]
    have ending : cycle.course.ending ≠ [] := by
      rw [course, Course.ending, Transfer.ending, if_neg keeps]
      exact List.cons_ne_nil _ _
    rcases last_or_earlier split with ⟨none, rfl⟩ | ⟨-, member⟩
    · exact .inr ⟨rfl, none, history.stands.closed_iff.mpr ending⟩
    · exact absurd (history.stayed cycle member).ending ending

theorem returned (history : History packing heard did c earlier last) {failure : Option Failure}
    (ended : Effect.ended failure ∈ did) : c.stage = .closed := by
  rw [history.done] at ended
  obtain ⟨cycle, member, effect⟩ := List.mem_flatMap.mp ended
  have ending : cycle.course.ending ≠ [] := by
    intro none
    rw [Cycle.effects, none, List.append_nil] at effect
    rcases Cycle.mem_work effect with ⟨request, same⟩ | ⟨octets, same⟩
    · cases same
    · cases same
  rcases List.mem_append.mp member with old | new
  · exact absurd (history.stayed cycle old).ending ending
  · rw [List.mem_singleton.mp new] at ending
    exact history.stands.closed_iff.mpr ending

theorem closed (history : History packing heard did c earlier last) (closed : c.stage = .closed) :
    ∃ before failure, did = before ++ [.close, .ended failure] ∧ Effect.close ∉ before ∧
      ∀ other, Effect.ended other ∉ before := by
  -- The connection stayed open behind every earlier cycle, so only the last one can have an end.
  have working : ∀ effect ∈ earlier.flatMap Cycle.effects ++ last.work,
      (∃ request, effect = .enqueue request) ∨ ∃ octets, effect = .send octets := by
    intro effect member
    rcases List.mem_append.mp member with old | new
    · obtain ⟨cycle, among, done⟩ := List.mem_flatMap.mp old
      rw [Cycle.effects, (history.stayed cycle among).ending, List.append_nil] at done
      exact Cycle.mem_work done
    · exact Cycle.mem_work new
  have noClose : Effect.close ∉ earlier.flatMap Cycle.effects ++ last.work := fun member => by
    simpa using working _ member
  have noEnd : ∀ other, Effect.ended other ∉ earlier.flatMap Cycle.effects ++ last.work := fun other member => by
    simpa using working _ member
  have all : did = earlier.flatMap Cycle.effects ++ last.work ++ last.course.ending := by
    rw [history.done, List.flatMap_append, List.flatMap_singleton, Cycle.effects, List.append_assoc]
  have ending := history.stands.closed_iff.mp closed
  rcases last.course.ending_cases with same | same | ⟨failure, same⟩
  · exact absurd same ending
  · refine ⟨earlier.flatMap Cycle.effects ++ last.work ++ [.shutdown], none, ?_, ?_, fun other => ?_⟩
    · rw [all, same, List.append_assoc _ [_]]
      rfl
    · simpa using noClose
    · simpa using noEnd other
  · exact ⟨_, failure, by rw [all, same]; rfl, noClose, noEnd⟩

theorem lifeCycle (history : History packing heard did c earlier last) : LifeCycle packing heard did c earlier last where
  toHistory := history
  jobs := by
    rw [history.done, List.filterMap_flatMap, List.filterMap_eq_flatMap_toList]
    simp only [Cycle.filterMap_job?]
  asked _ member request := history.asked member request
  outstanding before cycle after request split course := by
    rcases last_or_earlier split with ⟨none, rfl⟩ | ⟨-, member⟩
    · exact ⟨none, history.stands.queued_iff.mpr ⟨request, course⟩⟩
    · obtain ⟨answer, other, -⟩ := history.stayed cycle member
      rw [course] at other
      cases other
  deaf queued piece := step_of_not_awaits (by simp [awaits, queued]) packing
  output := by
    rw [history.done, List.filterMap_flatMap, List.filterMap_eq_flatMap_toList]
    simp only [Cycle.filterMap_octets?]
  whole before cycle after answer transfer split course := by
    rcases last_or_earlier split with ⟨none, -⟩ | ⟨-, member⟩
    · exact .inr none
    · obtain ⟨other, same, -⟩ := history.stayed cycle member
      rw [course] at same
      cases same
      exact .inl rfl
  refused _ member refused := history.refused member refused
  dropped cycle _ request course := by
    rw [Cycle.effects, Cycle.work, course]
    rfl
  keepAlive _ _ _ _ split course := history.keepAlive split course
  reread reading := history.stands.of_reading reading
  silent closed events := run_of_closed closed packing events
  returned _ ended := history.returned ended
  closed := history.closed

end History

/-- Whatever happens to a connection, what it does not wait for changes nothing, and what it takes in is a row of
cycles under the law of a life. -/
theorem run_lifeCycle (packing : Packing) (events : List Event) :
    fresh.run packing (fresh.heeded packing events) = fresh.run packing events ∧
      ∃ earlier last, LifeCycle packing (fresh.heeded packing events) (fresh.run packing events).2
        (fresh.run packing events).1 earlier last := by
  obtain ⟨earlier, last, history⟩ := (History.begin packing).run events
  exact ⟨run_heeded packing fresh events, earlier, last, history.lifeCycle⟩

end HttpExchange.Connection
