import HttpExchange.Proofs.Delivery

/-!
Server and client agree on what becomes of their connection. The server settles it by the request and writes it into
the head of the response, in place of any word that a service put there. Whoever reads the response to an end has read
that word, so a client keeps the connection exactly if the server goes on to read another request from it.
-/
namespace HttpExchange.Agreement
open HttpExchange.Parser (Reads freshIgnoring)
open Connection (Event fresh finishResponse octets lastEnqueued)
open ContentCoding (compress)
open Wire (serialize writtenFields)
open Text (OneLine)

/-! ### The word -/

/-- A response that a service may give: its headers keep to their places, version and reason to their line. -/
structure Clean (response : Response) : Prop where
  headers : response.headers.WireSafe
  version : OneLine response.start.version
  reason : OneLine response.start.reason

theorem Clean.compress {response : Response} (clean : Clean response) (packing : Packing) (request : Request) :
    Clean (compress packing request response) := by
  have start := ContentCoding.start_compress packing request response
  refine ⟨Delivery.wireSafe_compress packing request clean.headers, ?_, ?_⟩
  · rw [start]
    exact clean.version
  · rw [start]
    exact clean.reason

theorem clean_badRequest : Clean Response.badRequest := ⟨by decide +kernel, by decide, by decide⟩

theorem clean_internalError : Clean Response.internalError := ⟨by decide +kernel, by decide, by decide⟩

/-- The word that is written settles what becomes of the connection, whatever the version says. -/
theorem keepAlive_of_written {keepAlive : Bool} {response read : Response}
    (same : read.headers = ⟨writtenFields (finishResponse keepAlive response)⟩) : read.keepAlive = keepAlive := by
  have word : read.headers.get? "Connection" = some (if keepAlive then "Keep-Alive" else "Close") := by
    rw [same, Wire.get?_writtenFields (by decide), Connection.get?_connection]
  rw [Message.keepAlive, Message.keepAliveUnder, word]
  cases keepAlive with
  | true => rfl
  | false => rfl

theorem octets_begins_serialize (headOnly : Bool) (response : Response) :
    octets headOnly response <+: serialize response := by
  cases headOnly with
  | true => exact List.prefix_append _ _
  | false => exact List.prefix_refl _

/-- A reader that is done with what it has of a response has read the word. -/
theorem keepAlive_of_reads {keepAlive headOnly ignore : Bool} {response read : Response} (clean : Clean response)
    {input : Bytes} (inside : input <+: octets headOnly (finishResponse keepAlive response))
    (reads : Reads ignore input (.ok .complete) (.done (some read))) : read.keepAlive = keepAlive := by
  have text : (StartLine.toText (finishResponse keepAlive response).start).toList ≠ [] ∧
      OneLine (StartLine.toText (finishResponse keepAlive response).start) :=
    ⟨by simp [StartLine.toText, StatusLine.toText], StatusLine.oneLine_toText clean.version clean.reason⟩
  have written := Wire.headers_of_reads (Connection.wireSafe_finishResponse keepAlive clean.headers) text
    (inside.trans (octets_begins_serialize headOnly _)) reads
  exact keepAlive_of_written written

/-! ### The client -/

/-- Whoever is done reading what was sent takes it that the connection stays open or does not: the response says so,
and a client keeps its connection for the next request or closes it. -/
structure Announces (sent : Bytes) (stays : Bool) : Prop where
  read : ∀ (ignore : Bool) (pieces : List Bytes) (p : Parser StatusLine) (m : Response),
    pieces.flatten <+: sent → (freshIgnoring ignore).feedAll pieces = (.ok .complete, p) → p.message = some m →
      m.keepAlive = stays
  concluded : ∀ {κ : Type} (packing : Packing) (x : Exchange κ) (pool : Pool κ) (entry : PoolEntry κ)
    (parser : Parser StatusLine) (pieces : List Bytes) (piece : Bytes), x.stage = .talking entry (.reading parser) →
      (freshIgnoring x.ignoresBody).feedAll pieces = (.ok .needMore, parser) → piece ≠ [] →
      (pieces ++ [piece]).flatten <+: sent → (parser.feed piece).1 = .ok .complete →
        let outcome := x.step packing pool (.traffic (.received piece))
        if stays then
          outcome.pool = (pool.put x.endpoint entry).pool ∧
            outcome.commands = (pool.put x.endpoint entry).closing.map .close
        else outcome.pool = pool ∧ outcome.commands = [.shutdown entry.connection, .close entry.connection]

/-- An exchange ends with the piece that completes its response, and disposes of its connection as the response
says. -/
theorem step_complete {κ : Type} {packing : Packing} {x : Exchange κ} {pool : Pool κ} {entry : PoolEntry κ}
    {parser : Parser StatusLine} {piece : Bytes} {m : Response} (talking : x.stage = .talking entry (.reading parser))
    (complete : RoundTrip.read parser piece = .ended (.ok m)) :
    x.step packing pool (.traffic (.received piece)) = x.conclude packing pool entry m := by
  have read : (RoundTrip.reading parser).step x.settings.readTimeout x.ignoresBody (.received piece) =
      .ended (.ok m) := complete
  unfold Exchange.step
  simp only [talking, Exchange.converse, read]

theorem announces_octets {response : Response} (clean : Clean response) (keepAlive headOnly : Bool) :
    Announces (octets headOnly (finishResponse keepAlive response)) keepAlive where
  read ignore pieces p m inside fed known := by
    have reads := Parser.reads_feedAll fed
    obtain ⟨read, state⟩ := reads.message
    rw [Parser.message, state] at known
    obtain rfl : read = m := Option.some.inj known
    rw [state] at reads
    exact keepAlive_of_reads clean inside reads
  concluded packing x pool entry parser pieces piece talking waits nonempty inside complete := by
    obtain ⟨q, fed⟩ : ∃ q, parser.feed piece = (.ok .complete, q) := ⟨_, Prod.ext complete rfl⟩
    have whole := (Parser.feedAll_concat waits piece).trans fed
    obtain ⟨m, taken⟩ := Parser.take_of_complete whole
    have word := keepAlive_of_reads clean inside (Parser.reads_of_take whole taken)
    have ended : RoundTrip.read parser piece = .ended (.ok m) :=
      RoundTrip.read_complete nonempty complete (by rwa [fed])
    rw [step_complete talking ended, Exchange.conclude, word]
    cases keepAlive with
    | true => exact ⟨rfl, rfl⟩
    | false => exact ⟨rfl, rfl⟩

/-! ### The server -/

/-- A connection that accepts a request hands it out or sends a fault. -/
theorem accept_sends {packing : Packing} {c : Connection} {sent : Bytes} (sends : (c.accept packing).2 = [.send sent]) :
    ∃ d response, Clean response ∧ c.accept packing = Connection.fault d response := by
  unfold Connection.accept at sends ⊢
  cases taken : c.parser.take.1 with
  | none =>
    simp only [taken]
    exact ⟨_, _, clean_internalError, rfl⟩
  | some request =>
    cases unpacked : ContentCoding.decode packing request with
    | error failure =>
      simp only [taken, unpacked]
      exact ⟨_, _, clean_badRequest, rfl⟩
    | ok request => simp [taken, unpacked, Connection.dispatch] at sends

/-- What a connection sends is the answer it waited for, or a fault because of a piece that it was fed. -/
theorem step_sends {packing : Packing} {c : Connection} {event : Event} {sent : Bytes}
    (sends : (c.step packing event).2 = [.send sent]) :
    (∃ answer, event = .replied answer ∧ c.stage = .queued ∧
        c.step packing event = c.startWriting (octets c.headOnly (finishResponse c.keepAlive answer))) ∨
      ∃ piece d response, event = .received piece ∧ Clean response ∧
        c.step packing event = Connection.fault d response := by
  unfold Connection.step at sends ⊢
  split at sends
  · cases sends
  · simp [Connection.finish] at sends
  · rename_i piece reading
    refine .inr ⟨piece, ?_⟩
    unfold Connection.read at sends ⊢
    by_cases empty : piece = []
    · simp [empty, Connection.finish] at sends
    · rw [if_neg empty] at sends ⊢
      generalize c.parser.feed piece = fed at sends ⊢
      rcases fed with ⟨_ | _ | _, parser⟩
      · exact ⟨_, _, rfl, clean_badRequest, rfl⟩
      · simp at sends
      · obtain ⟨d, response, clean, faults⟩ := accept_sends sends
        exact ⟨d, response, rfl, clean, faults⟩
  · simp [Connection.finish] at sends
  · rename_i answer queued
    exact .inl ⟨answer, rfl, queued, rfl⟩
  · simp [Connection.shutDown] at sends
  · split at sends
    · simp at sends
    · simp [Connection.shutDown] at sends
  · simp [Connection.finish] at sends
  · cases sends

/-- Once it has written, a connection goes on to read or is closed, as it settled before. -/
theorem stage_written {packing : Packing} {c : Connection} (octets : Bytes) :
    (((c.startWriting octets).1.step packing .written).1).stage = if c.keepAlive then .reading else .closed := by
  cases stays : c.keepAlive with
  | true => simp [Connection.startWriting, Connection.step, stays]
  | false => simp [Connection.startWriting, Connection.step, Connection.shutDown, stays]

/-- Whatever came before on a connection, what it sends tells the one who asked what becomes of the connection once it
is written: the answer to a request, what the request asked for; a fault, that the connection is closed. -/
theorem run_agrees (packing : Packing) (events : List Event) (event : Event) (sent : Bytes)
    (sends : ((fresh.run packing events).1.step packing event).2 = [.send sent])
    (clean : ∀ answer, event = .replied answer → ∃ request response, Clean response ∧
      (answer = response ∨ answer = compress packing request response)) :
    ∃ stays : Bool,
      (((fresh.run packing events).1.step packing event).1.step packing .written).1.stage =
        (if stays then .reading else .closed) ∧
      Announces sent stays ∧
      (∀ answer, event = .replied answer →
        ∃ request, lastEnqueued (fresh.run packing events).2 = some request ∧ stays = request.keepAlive) ∧
      (∀ piece, event = .received piece → stays = false) := by
  rcases step_sends sends with ⟨answer, rfl, queued, step⟩ | ⟨piece, d, response, rfl, cleanFault, step⟩
  · obtain ⟨other, last, keepAlive, -⟩ := Connection.settled_run packing events queued
    obtain ⟨request, response, cleanResponse, answered⟩ := clean answer rfl
    have cleanAnswer : Clean answer := by
      rcases answered with rfl | rfl
      · exact cleanResponse
      · exact cleanResponse.compress packing request
    refine ⟨(fresh.run packing events).1.keepAlive, ?_, ?_, ?_, fun _ other => by cases other⟩
    · rw [step]
      exact stage_written _
    · rw [step] at sends
      obtain rfl : octets _ _ = sent := by simpa [Connection.startWriting] using sends
      exact announces_octets cleanAnswer _ _
    · intro _ _
      exact ⟨other, last, keepAlive⟩
  · refine ⟨false, ?_, ?_, (fun _ other => by cases other), fun _ _ => rfl⟩
    · rw [step]
      exact stage_written (c := { d with keepAlive := false }) _
    · rw [step] at sends
      obtain rfl : octets _ _ = sent := by simpa [Connection.fault, Connection.startWriting] using sends
      exact announces_octets cleanFault _ _

/-- A request of an old version that asks to keep the connection, answered by a service that means to close it; and
octets that are no request. -/
theorem run_agrees_shouted :
    let asked := Utf8.encode "GET / HTTP/1.0\r\nconnection: KEEP-alive\r\nContent-Length: 0\r\n\r\n"
    let answer : Response := ⟨⟨.ok, "", "HTTP/1.0"⟩, ⟨[⟨"cONNECTION", "cLoSe"⟩]⟩, none, [104, 105]⟩
    (∃ sent, ((fresh.run .standard [.received asked]).1.step .standard (.replied answer)).2 = [.send sent] ∧
      ((((fresh.run .standard [.received asked]).1.step .standard (.replied answer)).1.step .standard .written).1.stage =
        .reading) ∧ Announces sent true) ∧
    ∃ sent, ((fresh.run .standard []).1.step .standard (.received (Utf8.encode "GET\r\n"))).2 = [.send sent] ∧
      Announces sent false := by
  intro asked answer
  constructor
  · have sends : ((fresh.run .standard [.received asked]).1.step .standard (.replied answer)).2 = [.send (Utf8.encode
        "HTTP/1.0 200 OK\r\nConnection: Keep-Alive\r\nContent-Length: 2\r\n\r\nhi")] := by decide +kernel
    have clean : Clean answer := ⟨by decide +kernel, by decide, by decide⟩
    have last : lastEnqueued (fresh.run .standard [.received asked]).2 = some ⟨⟨.get, "/", "HTTP/1.0"⟩,
        ⟨[⟨"connection", "KEEP-alive"⟩, ⟨"Content-Length", "0"⟩]⟩, some 0, []⟩ := by decide +kernel
    obtain ⟨stays, stage, announces, settled, -⟩ := run_agrees .standard [.received asked] (.replied answer) _ sends
      (fun _ same => ⟨.make .get "/" "HTTP/1.0" [] [], answer, clean, .inl (Event.replied.inj same).symm⟩)
    obtain ⟨request, found, rfl⟩ := settled answer rfl
    obtain rfl := Option.some.inj (last.symm.trans found)
    exact ⟨_, sends, stage, announces⟩
  · have sends : ((fresh.run .standard []).1.step .standard (.received (Utf8.encode "GET\r\n"))).2 = [.send (Utf8.encode
        "HTTP/1.1 400 Bad Request\r\nConnection: Close\r\nContent-Length: 15\r\n\r\n400 Bad Request")] := by
      decide +kernel
    obtain ⟨stays, -, announces, -, faulted⟩ := run_agrees .standard [] (.received (Utf8.encode "GET\r\n")) _ sends
      fun _ other => by cases other
    obtain rfl := faulted _ rfl
    exact ⟨_, sends, announces⟩

end HttpExchange.Agreement
