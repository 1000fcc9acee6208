import HttpExchange.Proofs.Client.Exchange
import HttpExchange.Proofs.Client.Keeping
import HttpExchange.Proofs.Wire

/-!
Responses do not cross. If the peer of every connection answers the requests that it gets in their order, each with
one response that a reader ends with, then an exchange that ends well has got the answer to its own request, however
late answers come and wherever exchanges fail or give up: a connection goes back to the pool only when everything
that was asked on it has been answered and all of the answers were read.
-/
namespace HttpExchange
open Exchange (closings)

/-- What a peer owes for the requests that were written to it, if `answer` tells what it says to the request of a
number on the connection of a number. -/
def owed (answer : Nat → Nat → Request → Bytes) (l : Nat) (asked : List (Nat × Request)) : Bytes :=
  (asked.mapIdx fun k asked => answer l k asked.2).flatten

/-- Whatever peers have sent begins the answers to what was asked. -/
def Sharing.Obliging (answer : Nat → Nat → Request → Bytes) (s : Sharing) : Prop :=
  ∀ (l : Nat) (inside : l < s.lines.length), s.lines[l].came <+: owed answer l s.lines[l].asked

instance (answer : Nat → Nat → Request → Bytes) (s : Sharing) : Decidable (s.Obliging answer) :=
  inferInstanceAs (Decidable (∀ (l : Nat) (inside : l < s.lines.length),
    s.lines[l].came <+: owed answer l s.lines[l].asked))

variable {answer : Nat → Nat → Request → Bytes} {packing : Packing}

theorem owed_concat (l : Nat) (asked : List (Nat × Request)) (i : Nat) (request : Request) :
    owed answer l (asked ++ [(i, request)]) = owed answer l asked ++ answer l asked.length request := by
  rw [owed, List.mapIdx_concat, List.flatten_concat]
  rfl

theorem Sharing.Obliging.came {s : Sharing} (obliging : s.Obliging answer) {l : Nat} {line : Line}
    (found : s.lines[l]? = some line) : line.came <+: owed answer l line.asked := by
  obtain ⟨inside, rfl⟩ := List.getElem?_eq_some_iff.mp found
  exact obliging l inside

/-- The octets that an exchange learned of and did not take in yet. -/
def RoundTrip.Event.octets : Option RoundTrip.Event → Bytes
  | some (.received piece) => piece
  | _ => []

namespace Line

/-- Nothing is outstanding on an open connection: all that was asked is answered, and all that came was read. -/
def Settled (answer : Nat → Nat → Request → Bytes) (l : Nat) (line : Line) : Prop :=
  ∃ stream, line.socket.stream = some stream ∧ stream.ended = false ∧ stream.arrived = [] ∧
    line.came = owed answer l line.asked

/-- A connection serves a round trip: the request of the exchange is the last one that was asked on it, and what
came of the answer is with the reader, with the exchange or still to be read. -/
inductive Serves (answer : Nat → Nat → Request → Bytes) (l : Nat) (line : Line) (i : Nat) (request : Request)
    (news : Option RoundTrip.Event) : RoundTrip → Prop
  | writing {stream : Stream} {before : List (Nat × Request)} (here : line.socket.stream = some stream)
      (lasting : stream.ended = false) (asked : line.asked = before ++ [(i, request)])
      (came : line.came = owed answer l before ++ stream.arrived) : Serves answer l line i request news .writing
  | reading {stream : Stream} {before : List (Nat × Request)} {parser : Parser StatusLine} {pieces : List Bytes}
      (here : line.socket.stream = some stream) (lasting : stream.ended = false)
      (asked : line.asked = before ++ [(i, request)])
      (waits : (Parser.freshIgnoring (request.start.method = .head)).feedAll pieces = (.ok .needMore, parser))
      (came : line.came = owed answer l before ++ (pieces.flatten ++ RoundTrip.Event.octets news ++ stream.arrived)) :
      Serves answer l line i request news (.reading parser)

/-- The request of an exchange was answered on a connection with what it ends with. -/
def Answered (packing : Packing) (answer : Nat → Nat → Request → Bytes) (l : Nat) (line : Line) (i : Nat)
    (request : Request) (response : Response) : Prop :=
  ∃ k m, line.asked[k]? = some (i, request) ∧
    ((Parser.freshIgnoring (request.start.method = .head) : Parser StatusLine).feed (answer l k request)).2.take.1 =
      some m ∧
    ContentCoding.decode packing m = .ok response

/-- A piece completes a response only if the answer ends with it, and then the response is the answer. -/
theorem answer_complete {ignore : Bool} {whole : Bytes} (framed : Framed StatusLine ignore whole)
    {parser q : Parser StatusLine} {pieces : List Bytes} {piece : Bytes}
    (waits : (Parser.freshIgnoring ignore).feedAll pieces = (.ok .needMore, parser))
    (complete : parser.feed piece = (.ok .complete, q)) (begins : pieces.flatten ++ piece <+: whole) :
    pieces.flatten ++ piece = whole ∧
      ((Parser.freshIgnoring ignore : Parser StatusLine).feed whole).2.take.1 = q.take.1 := by
  have fed := (Parser.feedAll_concat waits piece).trans complete
  have flat : (pieces ++ [piece]).flatten = pieces.flatten ++ piece := List.flatten_concat
  have same := Parser.outcome_feedAll_fresh (S := StatusLine) ignore (pieces ++ [piece])
  rw [fed, flat] at same
  obtain ⟨result, state⟩ := Prod.mk.inj same
  have ends : pieces.flatten ++ piece = whole := by
    by_contra part
    exact framed.2 _ begins part result.symm
  refine ⟨ends, ?_⟩
  obtain ⟨m, done⟩ := (Parser.reads_feedAll fed).message
  rw [Parser.take_of_done done, ← ends]
  exact Parser.take_of_done (state.symm.trans done)

/-- What a round trip makes of what the exchange learned: it goes on and is still served, it fails, or it ends well
because all of the answer was read. -/
theorem Serves.step {l i : Nat} {line : Line} {request : Request} {heard : RoundTrip.Event} {trip : RoundTrip}
    (serves : line.Serves answer l i request (some heard) trip) (limit : Duration)
    (framed : ∀ k, Framed StatusLine (request.start.method = .head) (answer l k request))
    (obliging : line.came <+: owed answer l line.asked) :
    let next := trip.step limit (request.start.method = .head) heard
    line.Serves answer l i request none next ∨ (∃ failure, next = .failed failure) ∨
      ∃ m k, next = .ended (.ok m) ∧ line.Settled answer l ∧ line.asked[k]? = some (i, request) ∧
        ((Parser.freshIgnoring (request.start.method = .head) : Parser StatusLine).feed (answer l k request)).2.take.1 =
          some m := by
  cases serves with
  | @writing stream before here lasting asked came =>
    have still : line.Serves answer l i request none .writing := .writing here lasting asked came
    cases heard with
    | written =>
      have waits : (Parser.freshIgnoring (request.start.method = .head) : Parser StatusLine).feedAll [] =
          (.ok .needMore, .freshIgnoring (request.start.method = .head)) := rfl
      exact .inl (.reading here lasting asked waits came)
    | writeFailed cause => exact .inr (.inl ⟨_, rfl⟩)
    | writeExpired => exact .inr (.inl ⟨_, rfl⟩)
    | received piece => exact .inl still
    | readFailed cause => exact .inl still
    | readExpired => exact .inl still
  | @reading stream before parser pieces here lasting asked waits came =>
    cases heard with
    | written => exact .inl (.reading here lasting asked waits came)
    | writeFailed cause => exact .inl (.reading here lasting asked waits came)
    | writeExpired => exact .inl (.reading here lasting asked waits came)
    | readFailed cause => exact .inr (.inl ⟨_, rfl⟩)
    | readExpired => exact .inr (.inl ⟨_, rfl⟩)
    | received piece =>
      simp only [RoundTrip.Event.octets] at came
      by_cases empty : piece = []
      · exact .inr (.inl ⟨.socketRead .endedEarly, if_pos empty⟩)
      · have read : (RoundTrip.reading parser).step limit (request.start.method = .head) (.received piece) =
            RoundTrip.ofReading (parser.feed piece) := RoundTrip.read_eq empty parser
        rw [read]
        have fed := Parser.feedAll_concat waits piece
        rcases result : parser.feed piece with ⟨e | _ | _, q⟩
        · exact .inr (.inl ⟨_, rfl⟩)
        · refine .inl (.reading here lasting asked (fed.trans result) ?_)
          simpa [RoundTrip.Event.octets] using came
        · have begins : pieces.flatten ++ piece ++ stream.arrived <+: answer l before.length request := by
            rw [came, asked, owed_concat] at obliging
            exact (List.prefix_append_right_inj _).mp obliging
          -- What came so far begins the answer, and a reader is done with nothing shorter than the answer.
          obtain ⟨ends, same⟩ := answer_complete (framed before.length) waits result
            ((List.prefix_append _ _).trans begins)
          have nothing : stream.arrived = [] := by
            rw [ends] at begins
            have short := begins.length_le
            rw [List.length_append] at short
            exact List.length_eq_zero_iff.mp (by omega)
          have settled : line.Settled answer l := by
            refine ⟨stream, here, lasting, nothing, ?_⟩
            rw [came, asked, owed_concat, ends, nothing, List.append_nil]
          have mine : line.asked[before.length]? = some (i, request) := by
            rw [asked]
            exact List.getElem?_concat_length
          obtain ⟨m, taken⟩ := Parser.take_of_complete (fed.trans result)
          refine .inr (.inr ⟨m, before.length, ?_, settled, mine, same.trans taken⟩)
          simp only [RoundTrip.ofReading, taken]

/-- What is not an octet does not count among those that came. -/
theorem Serves.news {l i : Nat} {line : Line} {request : Request} {news other : Option RoundTrip.Event}
    {trip : RoundTrip} (serves : line.Serves answer l i request news trip)
    (same : RoundTrip.Event.octets other = RoundTrip.Event.octets news) :
    line.Serves answer l i request other trip := by
  cases serves with
  | writing here lasting asked came => exact .writing here lasting asked came
  | reading here lasting asked waits came => exact .reading here lasting asked waits (same ▸ came)

/-- What a peer does to a connection: what it sends arrives, and what is written stays. -/
structure Heard (line later : Line) : Prop where
  asked : later.asked = line.asked
  stream : ∀ stream, line.socket.stream = some stream → ∃ other more, later.socket.stream = some other ∧
    other.ended = stream.ended ∧ other.arrived = stream.arrived ++ more ∧ later.came = line.came ++ more

theorem Heard.refl (line : Line) : line.Heard line where
  asked := rfl
  stream stream here := ⟨stream, [], here, rfl, (List.append_nil _).symm, (List.append_nil _).symm⟩

theorem heard_hangUp (line : Line) : line.Heard line.hangUp where
  asked := rfl
  stream stream here :=
    ⟨{ stream with peerEnded := true }, [], by simp [hangUp, here], rfl, (List.append_nil _).symm,
      (List.append_nil _).symm⟩

theorem heard_answer {line other : Line} {octets : Bytes} (answers : line.answer? octets = some other) :
    line.Heard other := by
  obtain ⟨stream, here, rfl⟩ := answer?_eq_some answers
  refine ⟨rfl, fun same there => ?_⟩
  obtain rfl := Option.some.inj (here.symm.trans there)
  exact ⟨_, octets, rfl, rfl, rfl, rfl⟩

/-- A peer that owes nothing sends nothing. -/
theorem Settled.heard {l : Nat} {line later : Line} (settled : line.Settled answer l) (heard : line.Heard later)
    (obliging : later.came <+: owed answer l later.asked) : later.Settled answer l := by
  obtain ⟨stream, here, lasting, nothing, came⟩ := settled
  obtain ⟨other, more, there, ended, arrived, comes⟩ := heard.stream stream here
  have silent : more = [] := by
    rw [comes, heard.asked, came] at obliging
    have short := obliging.length_le
    rw [List.length_append] at short
    exact List.length_eq_zero_iff.mp (by omega)
  refine ⟨other, there, ended.trans lasting, ?_, ?_⟩
  · rw [arrived, nothing, silent, List.append_nil]
  · rw [comes, silent, List.append_nil, came, heard.asked]

theorem Serves.heard {l i : Nat} {line later : Line} {request : Request} {news : Option RoundTrip.Event}
    {trip : RoundTrip} (serves : line.Serves answer l i request news trip) (heard : line.Heard later) :
    later.Serves answer l i request news trip := by
  cases serves with
  | @writing stream before here lasting asked came =>
    obtain ⟨other, more, there, ended, arrived, comes⟩ := heard.stream stream here
    refine .writing there (ended.trans lasting) (heard.asked.trans asked) ?_
    rw [comes, came, arrived, List.append_assoc]
  | @reading stream before parser pieces here lasting asked waits came =>
    obtain ⟨other, more, there, ended, arrived, comes⟩ := heard.stream stream here
    refine .reading there (ended.trans lasting) (heard.asked.trans asked) waits ?_
    simp only [comes, came, arrived, List.append_assoc]

end Line

namespace Party

/-- The connection that an exchange talks on serves its round trip, or nothing is outstanding on it as long as the
request is not written. -/
def Attended (answer : Nat → Nat → Request → Bytes) (lines : List Line) (i : Nat) (party : Party) : Prop :=
  ∀ (entry : PoolEntry Nat) (trip : RoundTrip), party.exchange.stage = .talking entry trip →
    ∃ line, lines[entry.connection]? = some line ∧
      if party.orders = [] then line.Serves answer entry.connection i party.exchange.request party.news trip
      else line.Settled answer entry.connection

/-- If an exchange has ended well, its request was answered with what it ended with. -/
def Delivered (packing : Packing) (answer : Nat → Nat → Request → Bytes) (lines : List Line) (i : Nat)
    (party : Party) : Prop :=
  ∀ response, party.exchange.stage = .ended (.ok response) →
    ∃ (l : Nat) (line : Line), lines[l]? = some line ∧
      line.Answered packing answer l i party.exchange.request response

variable {lines lines' : List Line} {i : Nat} {party : Party}

theorem attended_of_silent (silent : ∀ entry trip, party.exchange.stage ≠ .talking entry trip) :
    party.Attended answer lines i := fun entry trip talking => absurd talking (silent entry trip)

theorem delivered_of_unended (unended : ∀ response, party.exchange.stage ≠ .ended (.ok response)) :
    party.Delivered packing answer lines i := fun response ended => absurd ended (unended response)

theorem unconcerned_of_opening (opening : party.exchange.stage = .opening) :
    party.Attended answer lines i ∧ party.Delivered packing answer lines i :=
  ⟨attended_of_silent (by simp [opening]), delivered_of_unended (by simp [opening])⟩

theorem attended_of_ended {result : Except Failure Response} (ended : party.exchange.stage = .ended result) :
    party.Attended answer lines i := attended_of_silent (by simp [ended])

theorem unconcerned_of_failed {failure : Failure} (failed : party.exchange.stage = .ended (.error failure)) :
    party.Attended answer lines i ∧ party.Delivered packing answer lines i :=
  ⟨attended_of_ended failed, delivered_of_unended (by simp [failed])⟩

/-- An exchange that ends with the answer to its request, unpacked. -/
theorem concerned_of_answered {l k : Nat} {line : Line} {m : Response} (here : lines[l]? = some line)
    (mine : line.asked[k]? = some (i, party.exchange.request))
    (taken : ((Parser.freshIgnoring (party.exchange.request.start.method = .head) : Parser StatusLine).feed
      (answer l k party.exchange.request)).2.take.1 = some m)
    (ended : party.exchange.stage = .ended (ContentCoding.decode packing m)) :
    party.Attended answer lines i ∧ party.Delivered packing answer lines i :=
  ⟨attended_of_ended ended, fun _ unpacked =>
    ⟨l, line, here, k, m, mine, taken, ExchangeStage.ended.inj (ended.symm.trans unpacked)⟩⟩

theorem delivered_of_talking {entry : PoolEntry Nat} {trip : RoundTrip}
    (talking : party.exchange.stage = .talking entry trip) : party.Delivered packing answer lines i :=
  delivered_of_unended (by simp [talking])

/-- What others do with their connections is nothing to an exchange. -/
theorem Attended.elsewhere (attended : party.Attended answer lines i)
    (same : ∀ l ∈ party.held, ∀ line, lines[l]? = some line → lines'[l]? = some line) :
    party.Attended answer lines' i := fun entry trip talking => by
  obtain ⟨line, here, serves⟩ := attended entry trip talking
  have mine : entry.connection ∈ party.held := by simp [held, Exchange.engaged_of_talking talking]
  exact ⟨line, same _ mine line here, serves⟩

/-- What was answered stays so when more is asked. -/
theorem Delivered.onward (delivered : party.Delivered packing answer lines i)
    (onward : Sharing.Onward lines lines') : party.Delivered packing answer lines' i := fun response ended => by
  obtain ⟨l, line, here, k, m, mine, answered⟩ := delivered response ended
  obtain ⟨later, there, further⟩ := onward l line here
  obtain ⟨rest, asked⟩ := further.asked
  refine ⟨l, later, there, k, m, ?_, answered⟩
  obtain ⟨inside, -⟩ := List.getElem?_eq_some_iff.mp mine
  rw [← asked, List.getElem?_append_left inside, mine]

end Party

namespace Sharing
variable {exchanges : List (Exchange Nat)} {pool pool' : Pool Nat} {parties : List Party} {lines lines' : List Line}
  {i : Nat} {party : Party}

/-- On every connection, what came belongs to what was asked. -/
structure Matched (packing : Packing) (answer : Nat → Nat → Request → Bytes) (pool : Pool Nat) (parties : List Party)
    (lines : List Line) : Prop where
  idle : ∀ l ∈ pool.connections, ∃ line, lines[l]? = some line ∧ line.Settled answer l
  busy : ∀ (i : Nat) (party : Party), parties[i]? = some party → party.Attended answer lines i
  done : ∀ (i : Nat) (party : Party), parties[i]? = some party → party.Delivered packing answer lines i

namespace Matched

/-- One exchange, the pool and the connections in the hands of the exchange change together. -/
theorem become (matched : Matched packing answer pool parties lines)
    (kept : Kept exchanges pool parties (uses lines)) (found : parties[i]? = some party) (party' : Party)
    (onward : Onward lines lines')
    (elsewhere : ∀ l line, lines[l]? = some line → l ∉ party.held → lines'[l]? = some line)
    (idle : ∀ l ∈ pool'.connections, l ∈ pool.connections ∨ ∃ line, lines'[l]? = some line ∧ line.Settled answer l)
    (both : party'.Attended answer lines' i ∧ party'.Delivered packing answer lines' i) :
    Matched packing answer pool' (parties.set i party') lines' where
  idle l member := by
    rcases idle l member with before | settled
    · obtain ⟨line, here, settled⟩ := matched.idle l before
      refine ⟨line, elsewhere l line here fun held => ?_, settled⟩
      have positive := List.count_pos_iff.mpr before
      obtain ⟨-, unpooled, -⟩ := kept.held_once found held
      omega
    · exact settled
  busy j other there := by
    rcases Replacement.set_cases there with ⟨rfl, rfl⟩ | ⟨apart, there⟩
    · exact both.1
    · refine (matched.busy j other there).elsewhere fun l held line here => elsewhere l line here fun mine => ?_
      exact kept.held_apart found there (Ne.symm apart) mine held
  done j other there := by
    rcases Replacement.set_cases there with ⟨rfl, rfl⟩ | ⟨apart, there⟩
    · exact both.2
    · exact (matched.done j other there).onward onward

/-- The connections stay as they are. -/
theorem become_same (matched : Matched packing answer pool parties lines)
    (kept : Kept exchanges pool parties (uses lines)) (found : parties[i]? = some party) (party' : Party)
    (idle : ∀ l ∈ pool'.connections, l ∈ pool.connections ∨ ∃ line, lines[l]? = some line ∧ line.Settled answer l)
    (both : party'.Attended answer lines i ∧ party'.Delivered packing answer lines i) :
    Matched packing answer pool' (parties.set i party') lines :=
  matched.become kept found party' (.refl lines) (fun _ _ here _ => here) idle both

/-- What an exchange learned on its connection, with nothing left to carry out. -/
theorem served (matched : Matched packing answer pool parties lines) (found : parties[i]? = some party)
    (idle : party.orders = []) {happened : RoundTrip.Event} (news : party.news = some happened)
    {entry : PoolEntry Nat} {trip : RoundTrip} (talking : party.exchange.stage = .talking entry trip) :
    ∃ line, lines[entry.connection]? = some line ∧
      line.Serves answer entry.connection i party.exchange.request (some happened) trip := by
  obtain ⟨line, here, serves⟩ := matched.busy i party found entry trip talking
  rw [if_pos idle, news] at serves
  exact ⟨line, here, serves⟩

/-- A response that is complete is the answer to the request, and nothing is left behind it. -/
theorem concluded (matched : Matched packing answer pool parties lines)
    (framed : ∀ l k request, Framed StatusLine (request.start.method = .head) (answer l k request))
    (obliging : ∀ (l : Nat) (line : Line), lines[l]? = some line → line.came <+: owed answer l line.asked)
    (found : parties[i]? = some party) (idle : party.orders = []) {happened : RoundTrip.Event}
    (news : party.news = some happened) {entry : PoolEntry Nat} {trip : RoundTrip} {response : Response}
    (talking : party.exchange.stage = .talking entry trip)
    (complete : trip.step party.exchange.settings.readTimeout party.exchange.ignoresBody happened =
      .ended (.ok response)) :
    ∃ line k, lines[entry.connection]? = some line ∧ line.Settled answer entry.connection ∧
      line.asked[k]? = some (i, party.exchange.request) ∧
      ((Parser.freshIgnoring (party.exchange.request.start.method = .head) : Parser StatusLine).feed
        (answer entry.connection k party.exchange.request)).2.take.1 = some response := by
  obtain ⟨line, here, serves⟩ := matched.served found idle news talking
  rcases serves.step party.exchange.settings.readTimeout (framed _ · _) (obliging _ line here) with
    still | ⟨failure, failed⟩ | ⟨m, k, ended, settled, mine, taken⟩
  · cases complete ▸ still
  · cases complete.symm.trans failed
  · cases complete.symm.trans ended
    exact ⟨line, k, here, settled, mine, taken⟩

/-- An exchange takes in an event. What it waits for comes with it, and what it learned on its connection is all that
it takes in there. -/
theorem deliver {event : Exchange.Event Nat} {outcome : Exchange.Outcome Nat}
    (matched : Matched packing answer pool parties lines) (kept : Kept exchanges pool parties (uses lines))
    (framed : ∀ l k request, Framed StatusLine (request.start.method = .head) (answer l k request))
    (obliging : ∀ (l : Nat) (line : Line), lines[l]? = some line → line.came <+: owed answer l line.asked)
    (found : parties[i]? = some party) (idle : party.orders = [])
    (step : Exchange.Step packing party.exchange pool event outcome)
    (stays : ∀ (l : Nat) (line : Line), lines[l]? = some line → lines'[l]? = some line)
    (brought : ∀ l ∈ party.exchange.brought event, ∃ line, lines'[l]? = some line ∧ line.Settled answer l)
    (heard : ∀ entry trip, party.exchange.stage = .talking entry trip →
      ∃ happened, event = .traffic happened ∧ party.news = some happened) :
    Matched packing answer outcome.pool (parties.set i ⟨outcome.exchange, none, party.orders ++ outcome.commands⟩)
      lines' := by
  have onward : Onward lines lines' := fun l line here => ⟨line, stays l line here, .refl line⟩
  have changed : ∀ {pool' : Pool Nat} (party' : Party),
      (∀ l ∈ pool'.connections, l ∈ pool.connections ∨ ∃ line, lines'[l]? = some line ∧ line.Settled answer l) →
      party'.Attended answer lines' i ∧ party'.Delivered packing answer lines' i →
      Matched packing answer pool' (parties.set i party') lines' :=
    fun party' => matched.become kept found party' onward fun l line here _ => stays l line here
  have news : ∀ {happened : RoundTrip.Event} {entry : PoolEntry Nat} {trip : RoundTrip},
      event = .traffic happened → party.exchange.stage = .talking entry trip → party.news = some happened := by
    rintro happened entry trip rfl talking
    obtain ⟨other, same, news⟩ := heard entry trip talking
    exact Exchange.Event.traffic.inj same ▸ news
  have before : ∀ l ∈ pool.connections, l ∈ pool.connections ∨
      ∃ line, lines'[l]? = some line ∧ line.Settled answer l := fun l => .inl
  rw [idle, List.nil_append]
  -- Who waits for a connection or has failed is owed nothing, so only what begins to talk, goes on or ends well counts.
  cases step with
  | ignored unasked silent =>
    refine changed _ before ⟨Party.attended_of_silent fun entry trip talking => ?_, fun response ended => ?_⟩
    · obtain ⟨happened, traffic, -⟩ := heard entry trip talking
      exact silent happened traffic entry trip talking
    · exact (matched.done i party found).onward onward response ended
  | asks starting absent => exact changed _ before (Party.unconcerned_of_opening rfl)
  | discards starting present unfit =>
    exact changed _ (fun l member => .inl (Pool.mem_connections_without member)) (Party.unconcerned_of_opening rfl)
  | @claims healthy entry starting present sound context =>
    refine changed _ (fun l member => .inl (Pool.mem_connections_without member))
      ⟨fun other trip talking => ?_, Party.delivered_of_talking rfl⟩
    cases talking
    have pooled : entry.connection ∈ pool.connections := List.mem_map_of_mem (Pool.mem_of_find? present)
    obtain ⟨line, here, settled⟩ := matched.idle _ pooled
    exact ⟨line, stays _ line here, settled⟩
  | @opens connection opening =>
    refine changed _ before ⟨fun other trip talking => ?_, Party.delivered_of_talking rfl⟩
    cases talking
    obtain ⟨line, here, settled⟩ := brought connection (by simp [Exchange.brought_opened opening])
    exact ⟨line, here, settled⟩
  | refused opening => exact changed _ before (Party.unconcerned_of_failed rfl)
  | @goesOn happened entry trip next talking goes going =>
    obtain ⟨line, here, serves⟩ := matched.served found idle (news rfl talking) talking
    subst goes
    rcases serves.step party.exchange.settings.readTimeout (framed _ · _) (obliging _ line here) with
      still | ⟨failure, failed⟩ | ⟨m, k, ended, -⟩
    · refine changed _ before ⟨fun other later talks => ?_, Party.delivered_of_talking rfl⟩
      cases talks
      exact ⟨line, stays _ line here, still⟩
    · cases failed ▸ going
    · cases ended ▸ going
  | fails talking failed => exact changed _ before (Party.unconcerned_of_failed rfl)
  | keeps talking complete lasts =>
    obtain ⟨line, k, here, settled, mine, taken⟩ :=
      matched.concluded framed obliging found idle (news rfl talking) talking complete
    refine changed _ (fun l member => ?_) (Party.concerned_of_answered (stays _ line here) mine taken rfl)
    rcases Pool.mem_connections_put member with before | rfl
    · exact .inl before
    · exact .inr ⟨line, stays _ line here, settled⟩
  | parts talking complete leaves =>
    obtain ⟨line, k, here, -, mine, taken⟩ :=
      matched.concluded framed obliging found idle (news rfl talking) talking complete
    exact changed _ before (Party.concerned_of_answered (stays _ line here) mine taken rfl)
  | gaveUp talking => exact changed _ before (Party.unconcerned_of_failed rfl)
  | withdrew early => exact changed _ before (Party.unconcerned_of_failed rfl)

/-- An exchange takes in an event that brings no connection. -/
theorem deliver_same {event : Exchange.Event Nat} (matched : Matched packing answer pool parties lines)
    (kept : Kept exchanges pool parties (uses lines))
    (framed : ∀ l k request, Framed StatusLine (request.start.method = .head) (answer l k request))
    (obliging : ∀ (l : Nat) (line : Line), lines[l]? = some line → line.came <+: owed answer l line.asked)
    (found : parties[i]? = some party) (idle : party.orders = []) (unasked : ∀ connection, event ≠ .opened connection)
    (heard : ∀ entry trip, party.exchange.stage = .talking entry trip →
      ∃ happened, event = .traffic happened ∧ party.news = some happened) :
    let outcome := party.exchange.step packing pool event
    Matched packing answer outcome.pool (parties.set i ⟨outcome.exchange, none, party.orders ++ outcome.commands⟩)
      lines := by
  have nothing : party.exchange.brought event = [] :=
    Exchange.brought_eq_nil fun connection asked => absurd asked (unasked connection)
  refine matched.deliver kept framed obliging found idle (Exchange.step_outcome packing party.exchange pool event)
    (fun _ _ => id) (fun l member => ?_) heard
  rw [nothing] at member
  cases member

/-- An exchange does something to a connection in its hands. -/
theorem modify (matched : Matched packing answer pool parties lines)
    (kept : Kept exchanges pool parties (uses lines)) (found : parties[i]? = some party) (party' : Party) {l : Nat}
    (held : l ∈ party.held) {change : Line → Line} (onward : ∀ line : Line, line.Onward (change line))
    (both : party'.Attended answer (lines.modify l change) i ∧
      party'.Delivered packing answer (lines.modify l change) i) :
    Matched packing answer pool (parties.set i party') (lines.modify l change) := by
  refine matched.become kept found party' (onward_modify lines l onward) (fun m line here apart => ?_)
    (fun m => .inl) both
  have other : l ≠ m := fun same => apart (same ▸ held)
  rw [List.getElem?_modify, here]
  simp [other]

/-- An exchange that talks on no connection does something to one in its hands. -/
theorem modify_silent (matched : Matched packing answer pool parties lines)
    (kept : Kept exchanges pool parties (uses lines)) (found : parties[i]? = some party)
    (rest : List (Exchange.Command Nat)) (silent : ∀ entry trip, party.exchange.stage ≠ .talking entry trip) {l : Nat}
    (held : l ∈ party.held) {change : Line → Line} (onward : ∀ line : Line, line.Onward (change line)) :
    Matched packing answer pool (parties.set i { party with orders := rest }) (lines.modify l change) :=
  matched.modify kept found { party with orders := rest } held onward ⟨Party.attended_of_silent silent,
    fun response ended => (matched.done i party found).onward (onward_modify lines l onward) response ended⟩

/-- An exchange carries out the first of its orders. -/
theorem obey (matched : Matched packing answer pool parties lines) (kept : Kept exchanges pool parties (uses lines))
    (found : parties[i]? = some party) {order : Exchange.Command Nat} {rest : List (Exchange.Command Nat)}
    (orders : party.orders = order :: rest) :
    Matched packing answer pool (parties.set i { party with orders := rest })
      (Sharing.obey i party.exchange.request lines order) := by
  have closes : ∀ {l : Nat}, l ∈ closings party.orders → l ∈ party.held := List.mem_append_right _
  cases kept.regular party (List.mem_of_getElem? found) with
  | starting => cases orders
  | @connecting x opening closing =>
    have silent : ∀ entry trip, x.stage ≠ .talking entry trip := by simp [opening]
    cases closing with
    | nil =>
      cases orders
      exact matched.become_same kept found ⟨x, none, []⟩ (fun l => .inl) (Party.unconcerned_of_opening opening)
    | cons l closing =>
      cases orders
      exact matched.modify_silent kept found _ silent (closes (List.mem_cons_self ..)) Line.onward_release
  | opening => cases orders
  | @sending x entry talking =>
    cases orders
    obtain ⟨line, here, settled⟩ := matched.busy i _ found entry .writing talking
    rw [if_neg (List.cons_ne_nil _ _)] at settled
    obtain ⟨stream, there, lasting, nothing, came⟩ := settled
    let octets := Wire.serialize x.request
    have asked : (lines.modify entry.connection (·.ask i x.request octets))[entry.connection]? =
        some (line.told stream i x.request octets) := by
      simp [here, Line.ask_of_lasting there lasting]
    have serves : (line.told stream i x.request octets).Serves answer entry.connection i x.request none .writing :=
      .writing rfl lasting rfl (by simp [Line.told, came, nothing])
    refine matched.modify kept found ⟨x, none, []⟩ (by simp [Party.held, Exchange.engaged_of_talking talking])
      (fun line => line.onward_ask i x.request octets) ⟨fun other trip talks => ?_, Party.delivered_of_talking talking⟩
    cases talking.symm.trans talks
    exact ⟨_, asked, serves⟩
  | talking => cases orders
  | @parting x result ended l =>
    cases orders
    exact matched.modify_silent kept found _ (by simp [ended]) (closes (List.mem_cons_self ..)) Line.onward_shutdown
  | @ended x result ended closing =>
    cases closing with
    | nil => cases orders
    | cons l closing =>
      cases orders
      exact matched.modify_silent kept found _ (by simp [ended]) (closes (List.mem_cons_self ..)) Line.onward_release

/-- An exchange learns what happened outside of what its peer sends. -/
theorem learn (matched : Matched packing answer pool parties lines)
    (kept : Kept exchanges pool parties (uses lines)) (found : parties[i]? = some party) (idle : party.orders = [])
    (unheard : party.news = none) {event : RoundTrip.Event} (outside : isOutside event = true) :
    Matched packing answer pool (parties.set i { party with news := some event }) lines := by
  have nothing : RoundTrip.Event.octets (some event) = RoundTrip.Event.octets none := by
    cases event with
    | received piece => cases outside
    | _ => rfl
  refine matched.become_same kept found { party with news := some event } (fun l => .inl)
    ⟨fun entry trip talking => ?_, fun response ended => matched.done i party found response ended⟩
  obtain ⟨line, here, serves⟩ := matched.busy i party found entry trip talking
  rw [if_pos idle, unheard] at serves
  refine ⟨line, here, ?_⟩
  rw [if_pos idle]
  exact serves.news nothing

/-- An exchange reads some of what has arrived. -/
theorem read (matched : Matched packing answer pool parties lines)
    (kept : Kept exchanges pool parties (uses lines)) (found : parties[i]? = some party) (idle : party.orders = [])
    (unheard : party.news = none) {entry : PoolEntry Nat} {parser : Parser StatusLine}
    (talking : party.exchange.stage = .talking entry (.reading parser)) {line : Line}
    (here : lines[entry.connection]? = some line) {size : Nat} {piece : Bytes} {socket : Socket}
    (reads : line.socket.read size = .ok (some (piece, socket))) :
    Matched packing answer pool (parties.set i { party with news := some (.received piece) })
      (lines.set entry.connection { line with socket }) := by
  obtain ⟨inside, -⟩ := List.getElem?_eq_some_iff.mp here
  have mine : entry.connection ∈ party.held := by simp [Party.held, Exchange.engaged_of_talking talking]
  obtain ⟨stream, there, rfl, rfl⟩ := Line.read_eq reads
  have onward : Onward lines (lines.set entry.connection _) := onward_set here
    (line.onward_of_stream { line.socket with stream := some { stream with arrived := stream.arrived.drop size } }
      line.backlog line.came fun none => by simp [none] at there)
  refine matched.become kept found { party with news := some (.received _) } onward (fun l other found apart => ?_)
    (fun l => .inl) ⟨fun other trip talks => ?_, Party.delivered_of_talking talking⟩
  · have other : entry.connection ≠ l := fun same => apart (same ▸ mine)
    exact (List.getElem?_set_ne other).trans found
  · cases talking.symm.trans talks
    refine ⟨_, List.getElem?_set_self inside, ?_⟩
    obtain ⟨known, knownHere, serves⟩ := matched.busy i party found entry _ talking
    obtain rfl := Option.some.inj (here.symm.trans knownHere)
    rw [if_pos idle, unheard] at serves
    rw [if_pos idle]
    cases serves with
    | @reading other before _ pieces found lasting asked waits came =>
      obtain rfl := Option.some.inj (there.symm.trans found)
      refine .reading rfl lasting asked waits ?_
      simpa [RoundTrip.Event.octets, List.append_assoc] using came

/-- A cancelled exchange lets go of what was in its hands. -/
theorem cancelled (matched : Matched packing answer pool parties lines)
    (kept : Kept exchanges pool parties (uses lines)) (found : parties[i]? = some party) {closing : List Nat}
    (held : party.held.Perm closing) (party' : Party)
    (both : party'.Attended answer (release lines closing) i ∧
      party'.Delivered packing answer (release lines closing) i) :
    Matched packing answer pool (parties.set i party') (release lines closing) := by
  refine matched.become kept found party' (onward_release lines closing) (fun l line here apart => ?_)
    (fun l => .inl) both
  rw [getElem?_release, here, Option.map_some, if_neg fun closes => apart (held.mem_iff.mpr closes)]

/-- Idle connections are released. -/
theorem tidy (matched : Matched packing answer pool parties lines) (kept : Kept exchanges pool parties (uses lines))
    {closing : List Nat} (custody : pool.connections.Perm (closing ++ pool'.connections)) :
    Matched packing answer pool' parties (release lines closing) where
  idle l member := by
    have pooled : l ∈ pool.connections := custody.mem_iff.mpr (List.mem_append_right _ member)
    obtain ⟨line, here, settled⟩ := matched.idle l pooled
    refine ⟨line, ?_, settled⟩
    have apart : l ∉ closing := fun closes => by
      have total := kept.custody l
      rw [List.count_append, custody.count_eq, List.count_append] at total
      have first := List.count_pos_iff.mpr closes
      have second := List.count_pos_iff.mpr member
      split_ifs at total <;> omega
    rw [getElem?_release, here, Option.map_some, if_neg apart]
  busy i party found := (matched.busy i party found).elsewhere fun l held line here => by
    obtain ⟨-, unpooled, -⟩ := kept.held_once found held
    have apart : l ∉ closing := fun closes => by
      rw [custody.count_eq, List.count_append] at unpooled
      have positive := List.count_pos_iff.mpr closes
      omega
    rw [getElem?_release, here, Option.map_some, if_neg apart]
  done i party found := (matched.done i party found).onward (onward_release lines closing)

/-- Peers send what they owe, or say goodbye. -/
theorem heard (matched : Matched packing answer pool parties lines) (onward : Onward lines lines')
    (heard : ∀ (l : Nat) (line : Line), lines[l]? = some line → ∃ later, lines'[l]? = some later ∧ line.Heard later)
    (obliging : ∀ (l : Nat) (line : Line), lines'[l]? = some line → line.came <+: owed answer l line.asked) :
    Matched packing answer pool parties lines' where
  idle l member := by
    obtain ⟨line, here, settled⟩ := matched.idle l member
    obtain ⟨later, there, heard⟩ := heard l line here
    exact ⟨later, there, settled.heard heard (obliging l later there)⟩
  busy i party found entry trip talking := by
    obtain ⟨line, here, serves⟩ := matched.busy i party found entry trip talking
    obtain ⟨later, there, heard⟩ := heard _ line here
    refine ⟨later, there, ?_⟩
    by_cases idle : party.orders = []
    · rw [if_pos idle] at serves ⊢
      exact serves.heard heard
    · rw [if_neg idle] at serves ⊢
      exact serves.heard heard (obliging _ later there)
  done i party found := (matched.done i party found).onward onward

theorem start (packing : Packing) (answer : Nat → Nat → Request → Bytes) (exchanges : List (Exchange Nat)) :
    Matched packing answer (start exchanges).pool (start exchanges).parties (start exchanges).lines := by
  have silent : ∀ (i : Nat) (party : Party), (Sharing.start exchanges).parties[i]? = some party →
      party.exchange.stage = .starting := fun i party found => by
    rw [Sharing.start, List.getElem?_map] at found
    obtain ⟨x, -, rfl⟩ := Option.map_eq_some_iff.mp found
    rfl
  exact {
    idle := fun _ member => absurd member List.not_mem_nil
    busy := fun i party found => Party.attended_of_silent (by simp [silent i party found])
    done := fun i party found => Party.delivered_of_unended (by simp [silent i party found]) }

end Matched

section
variable {s s' : Sharing}

/-- Every action keeps what came with what was asked. -/
theorem Matched.step (matched : Matched packing answer s.pool s.parties s.lines)
    (kept : Kept exchanges s.pool s.parties (uses s.lines))
    (framed : ∀ l k request, Framed StatusLine (request.start.method = .head) (answer l k request))
    (obliging : s.Obliging answer) (obliging' : s'.Obliging answer) {action : Action}
    (step : Step packing s action s') : Matched packing answer s'.pool s'.parties s'.lines := by
  have owes : ∀ (l : Nat) (line : Line), s.lines[l]? = some line → line.came <+: owed answer l line.asked :=
    fun l line => obliging.came
  have owes' : ∀ (l : Nat) (line : Line), s'.lines[l]? = some line → line.came <+: owed answer l line.asked :=
    fun l line => obliging'.came
  have onward := step.onward
  cases step with
  | @begin i party found starting =>
    have regular := kept.regular party (List.mem_of_getElem? found)
    exact matched.deliver_same kept framed owes found (orders_of_starting regular starting) (by simp)
      fun entry trip talking => absurd (starting.symm.trans talking) (by simp)
  | obey found orders => exact matched.obey kept found orders
  | @opened i party found opening idle =>
    refine matched.deliver kept framed owes found idle
      (Exchange.step_outcome packing party.exchange s.pool (.opened s.lines.length)) (fun l line here => ?_)
      (fun l member => ?_) fun entry trip talking => ?_
    · obtain ⟨inside, -⟩ := List.getElem?_eq_some_iff.mp here
      exact (List.getElem?_append_left inside).trans here
    · rw [Exchange.brought_opened opening] at member
      obtain rfl := List.mem_singleton.mp member
      exact ⟨_, List.getElem?_concat_length, .fresh, rfl, rfl, rfl, rfl⟩
    · cases opening.symm.trans talking
  | openFailed found opening idle =>
    exact matched.deliver_same kept framed owes found idle (by simp)
      fun entry trip talking => absurd (opening.symm.trans talking) (by simp)
  | traffic found talking idle unheard outside => exact matched.learn kept found idle unheard outside
  | read found talking idle unheard here reads => exact matched.read kept found idle unheard talking here reads
  | @react i party event found news =>
    have regular := kept.regular party (List.mem_of_getElem? found)
    exact matched.deliver_same kept framed owes found (orders_of_news regular news) (by simp)
      fun entry trip talking => ⟨event, rfl, news⟩
  | @cancelled i party outcome found gaveUp =>
    have step := Exchange.step_outcome packing party.exchange s.pool .cancelled
    obtain ⟨pool, engaged, held⟩ := @closings_of_cancelled packing party s.pool
    rw [gaveUp] at step pool engaged held
    rw [pool]
    refine matched.cancelled kept found held _ ⟨Party.attended_of_silent fun entry trip talking => ?_,
      fun response ended => ?_⟩
    · rw [Exchange.engaged_of_talking talking] at engaged
      cases engaged
    · cases step with
      | ignored => exact (matched.done i party found).onward onward response ended
      | gaveUp => cases ended
      | withdrew => cases ended
  | @answered l octets line other found answers =>
    exact matched.heard onward (fun m known =>
      Replacement.set_related Line.Heard.refl found (Line.heard_answer answers)) owes'
  | @hungUp l =>
    exact matched.heard onward (fun m known => Replacement.modify_related Line.Heard.refl Line.heard_hangUp l) owes'
  | @stirred l backlog =>
    have heard : ∀ line : Line, line.Heard { line with backlog } := fun line =>
      ⟨rfl, (Line.Heard.refl line).stream⟩
    exact matched.heard onward (fun m known => Replacement.modify_related Line.Heard.refl heard l) owes'
  | remove => exact matched.tidy kept (Pool.connections_remove kept.keyed _)
  | clear => exact matched.tidy kept (by rw [Pool.connections, Pool.connections]; exact (List.append_nil _) ▸ .refl _)

/-- Every run keeps what came with what was asked, as long as peers send only what they owe. -/
theorem Matched.run (matched : Matched packing answer s.pool s.parties s.lines)
    (kept : Kept exchanges s.pool s.parties (uses s.lines))
    (framed : ∀ l k request, Framed StatusLine (request.start.method = .head) (answer l k request))
    {actions : List Action} (obliging : ∀ earlier, earlier <+: actions → (s.run packing earlier).Obliging answer) :
    let s' := s.run packing actions
    Matched packing answer s'.pool s'.parties s'.lines := by
  induction actions generalizing s with
  | nil => exact matched
  | cons action rest ih =>
    have now : s.Obliging answer := obliging [] List.nil_prefix
    have next : (s.after packing action).Obliging answer := obliging [action] ⟨rest, rfl⟩
    refine ih ?_ (kept.after action) fun earlier before =>
      obliging (action :: earlier) (List.cons_prefix_cons.mpr ⟨rfl, before⟩)
    rcases step_after packing s action with same | step
    · exact same.symm ▸ matched
    · exact matched.step kept framed now next step

/-- What holds wherever exchanges have come whose peers answer what they are asked. -/
structure Corresponding (packing : Packing) (answer : Nat → Nat → Request → Bytes) (exchanges : List (Exchange Nat))
    (s : Sharing) : Prop where
  /-- An exchange that ends well wrote its own request on some connection and ends with the answer to that. -/
  responses : ∀ (i : Nat) (party : Party) (response : Response), s.parties[i]? = some party →
    party.exchange.stage = .ended (.ok response) →
    ∃ (x : Exchange Nat) (l : Nat) (line : Line), exchanges[i]? = some x ∧ s.lines[l]? = some line ∧
      line.Answered packing answer l i x.request response
  /-- On an idle connection everything that was asked is answered, and every octet of the answers was read. -/
  idle : ∀ (endpoint : Endpoint) (entry : PoolEntry Nat), (endpoint, entry) ∈ s.pool.entries →
    ∃ line, s.lines[entry.connection]? = some line ∧ line.Settled answer entry.connection

/-- Peers may answer late, hang up or say nothing, and exchanges may fail, run out of time or be cancelled: no
exchange gets the answer to the request of another. -/
theorem run_corresponding {answer : Nat → Nat → Request → Bytes}
    (framed : ∀ l k request, Framed StatusLine (request.start.method = .head) (answer l k request))
    (packing : Packing) (exchanges : List (Exchange Nat)) {actions : List Action}
    (obliging : ∀ earlier, earlier <+: actions → ((start exchanges).run packing earlier).Obliging answer) :
    Corresponding packing answer exchanges ((start exchanges).run packing actions) := by
  have kept := @Kept.run packing _ _ (Kept.start exchanges) actions
  have matched := (Matched.start packing answer exchanges).run (Kept.start exchanges) framed obliging
  refine ⟨fun i party response found ended => ?_, fun endpoint entry member => ?_⟩
  · obtain ⟨x, there, -, -, same⟩ := kept.origin i party found
    obtain ⟨l, line, here, answered⟩ := matched.done i party found response ended
    exact ⟨x, l, line, there, here, same ▸ answered⟩
  · exact matched.idle _ (List.mem_map_of_mem member)

/-- A late answer is lost with its connection; the next exchange opens another one, and a third reuses that. The peer
counts the requests on each connection. -/
theorem run_corresponding_late :
    let x (target : String) : Exchange Nat := ⟨.make "http" "a" 80, ⟨1024, .seconds 10, .seconds 30, "default"⟩,
      .make .get target "HTTP/1.1" [] [], .starting⟩
    let page (k : Nat) : Response := ⟨⟨.ok, "OK", "HTTP/1.1"⟩, .empty, none, [.ofNat k]⟩
    let answer (_ k : Nat) (request : Request) : Bytes :=
      if request.start.method = .head then Wire.head (page k) else Wire.serialize (page k)
    let actions : List Action := [.begin 0, .obey 0, .opened 0, .obey 0, .traffic 0 .written, .react 0,
      .traffic 0 .readExpired, .react 0, .answered 0 (Wire.serialize (page 0)), .obey 0, .begin 1, .obey 1, .opened 1,
      .obey 1, .traffic 1 .written, .react 1, .answered 1 (Wire.serialize (page 0)), .read 1 1024, .react 1, .begin 2,
      .obey 2, .traffic 2 .written, .react 2, .answered 1 (Wire.serialize (page 1)), .read 2 1024, .react 2]
    let s := (start [x "/a", x "/b", x "/c"]).run .standard actions
    s.parties.map (fun party => (party.exchange.result?.bind Except.toOption).map Message.body) =
        [none, some [0], some [1]] ∧
      Corresponding .standard answer [x "/a", x "/b", x "/c"] s := by
  intro x page answer actions s
  have framed : ∀ l k (request : Request),
      Framed StatusLine (request.start.method = .head) (answer l k request) := fun l k request => by
    have fits : (Wire.head (page 0)).length ≤ Parser.headLimit := by decide +kernel
    have readable : Wire.Readable (page k) _ := Wire.readable_response (show Headers.empty.WireSafe by decide)
      (show (StatusLine.mk .ok "OK" "HTTP/1.1").WireSafe by decide +kernel) fits (show 1 < Parser.lengthBound by decide)
    by_cases head : request.start.method = .head
    · simp only [answer, head, if_true, decide_true]
      exact readable.framed_head fun bodied => absurd bodied.1 (by decide)
    · simp only [answer, head, if_false, decide_false]
      exact readable.framed_serialize rfl
  have obliging : ∀ earlier ∈ actions.inits,
      ((start [x "/a", x "/b", x "/c"]).run .standard earlier).Obliging answer := by decide +kernel
  exact ⟨by decide +kernel, run_corresponding framed .standard _ fun earlier before =>
    obliging earlier ((List.mem_inits ..).mpr before)⟩

end
end Sharing
end HttpExchange
