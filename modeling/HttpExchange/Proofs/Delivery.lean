import HttpExchange.Proofs.Client.Exchange
import HttpExchange.Proofs.ContentCoding
import HttpExchange.Proofs.Server.Framing

/-!
From a server's answer to what its client gets. Packing a body on one side and unpacking it on the other changes
nothing of a response that carries its body. A response without a body is delivered unless it is said to be
packed, since nothing unpacks from an empty body.
-/
namespace HttpExchange.Delivery
open HttpExchange.Parser (Bodied Reads headLimit lengthBound)
open Connection (fresh finishResponse octets lastEnqueued)
open ContentCoding (compress decode announced Packs)
open Wire (Readable readLine readBack headBack writtenFields ownFields lengthField)
open Headers (named put)
open Text (decimal)
variable {κ : Type}

/-! ### What goes out -/

theorem wireSafe_compress (packing : Packing) (request : Request) {response : Response}
    (headers : response.headers.WireSafe) : (compress packing request response).headers.WireSafe := by
  by_cases packs : Packs request response
  · rw [ContentCoding.compress_of_packs packs]
    have coding : Field.WireSafe ⟨"Content-Encoding", "gzip"⟩ := by decide +kernel
    exact Headers.wireSafe_set (Headers.wireSafe_set headers coding)
      (Wire.wireSafe_lengthField ({ response with body := packing.gzip response.body } : Response))
  · rwa [ContentCoding.compress_of_not_packs packs]

/-- An answer goes out so that it can be read back. -/
theorem readable_answer (packing : Packing) (request : Request) {response : Response} (keepAlive : Bool)
    (headers : response.headers.WireSafe) (line : response.start.WireSafe)
    (fits : (Wire.head (finishResponse keepAlive (compress packing request response))).length ≤ headLimit)
    (length : (compress packing request response).body.length < lengthBound) :
    Readable (finishResponse keepAlive (compress packing request response)) (readLine response.start) := by
  have start : (finishResponse keepAlive (compress packing request response)).start = response.start :=
    ContentCoding.start_compress packing request response
  rw [← start]
  refine Wire.readable_response (Connection.wireSafe_finishResponse keepAlive (wireSafe_compress packing request headers))
    ?_ fits length
  rwa [start]

/-- A connection that waits for the answer to a request sends it with or without its body as the request says. -/
theorem step_answered {packing : Packing} {earlier : List Connection.Event} {request : Request}
    (queued : (fresh.run packing earlier).1.stage = .queued)
    (asked : lastEnqueued (fresh.run packing earlier).2 = some request) (answer : Response) :
    ((fresh.run packing earlier).1.step packing (.replied answer)).2 =
      [.send (octets (request.start.method = .head) (finishResponse request.keepAlive answer))] := by
  obtain ⟨other, last, keepAlive, headOnly⟩ := Connection.settled_run packing earlier queued
  obtain rfl : request = other := Option.some.inj (asked.symm.trans last)
  rw [Connection.step_replied queued, keepAlive, headOnly]
  rfl

/-- No answer goes out empty. -/
theorem sent_ne_nil {packing : Packing} {earlier : List Connection.Event} {request : Request}
    (queued : (fresh.run packing earlier).1.stage = .queued)
    (asked : lastEnqueued (fresh.run packing earlier).2 = some request) {answer : Response} {sent : Bytes}
    (sends : ((fresh.run packing earlier).1.step packing (.replied answer)).2 = [.send sent]) : sent ≠ [] := by
  rw [step_answered queued asked] at sends
  simp only [List.cons.injEq, Connection.Effect.send.injEq, and_true] at sends
  rw [← sends]
  exact Connection.octets_ne_nil _ _

/-! ### Responses with their bodies -/

/-- What a client is to get for a response: the start line as it is written, the body, its length declared once,
one header about the connection, and of all other fields what the response has, in its order. -/
structure Mirrors (keepAlive : Bool) (response read : Response) : Prop where
  start : read.start = { response.start with reason := response.start.writtenReason }
  body : read.body = response.body
  contentLength : read.contentLength = some response.body.length
  length : read.headers.fields.filter (named "Content-Length") = [⟨"Content-Length", decimal response.body.length⟩]
  plain : read.headers.contains "Content-Encoding" = false
  connection : read.headers.fields.filter (named "Connection") =
    [⟨"Connection", if keepAlive then "Keep-Alive" else "Close"⟩]
  others : (read.headers.fields.filter fun field => !named "Content-Length" field && !named "Connection" field) =
    response.headers.fields.filter fun field => !named "Content-Length" field && !named "Connection" field

theorem readLine_of_named {line : StatusLine} (known : ∃ code, line.status = .ofCode code) :
    readLine line = { line with reason := line.writtenReason } := by
  obtain ⟨code, known⟩ := known
  have same : Status.ofCode line.status.code = line.status := by rw [known, Status.code_ofCode]
  rw [readLine, same]

theorem announced_finishResponse (keepAlive : Bool) (response : Response) :
    announced (finishResponse keepAlive response).headers = announced response.headers := by
  unfold announced
  rw [finishResponse, Headers.get?_set_of_ne (by decide)]

theorem announced_written (keepAlive : Bool) (response : Response) :
    announced ⟨writtenFields (finishResponse keepAlive response)⟩ = announced response.headers := by
  rw [← announced_finishResponse keepAlive]
  unfold announced
  rw [Wire.get?_writtenFields (by decide)]

theorem announced_of_plain {headers : Headers} (plain : headers.contains "Content-Encoding" = false) :
    announced headers = .untouched := by
  rw [announced, Headers.get?_eq_none_iff.mpr plain]
  rfl

/-- Setting the length of a body does not show among the fields that are written as they are. -/
theorem ownFields_set_length (h : Headers) (value : String) : ownFields (h.set "Content-Length" value) = ownFields h := by
  refine Headers.filter_put_of_dropped ⟨"Content-Length", value⟩ (fun field same => ?_) h.fields
  simpa using same

theorem ownFields_set {name : String} (apart : Text.sameIgnoringCase name "Content-Length" = false) (h : Headers)
    (value : String) : ownFields (h.set name value) = put ⟨name, value⟩ (ownFields h) := by
  refine Headers.filter_put ⟨name, value⟩ (fun field same => ?_) h.fields
  rw [Headers.not_named_of_named apart same]
  rfl

/-- The header that says whether the connection stays open. -/
def connectionField (keepAlive : Bool) : Field := ⟨"Connection", if keepAlive then "Keep-Alive" else "Close"⟩

theorem writtenFields_finishResponse (keepAlive : Bool) (response : Response) :
    writtenFields (finishResponse keepAlive response) =
      put (connectionField keepAlive) (ownFields response.headers) ++
        [⟨"Content-Length", decimal response.body.length⟩] := by
  rw [writtenFields, finishResponse, ownFields_set (by decide)]
  rfl

/-- Dropping the header that announces the packing leaves the fields as they were before packing. -/
theorem erase_encoding {fields : List Field} (plain : ∀ field ∈ fields, named "Content-Encoding" field = false)
    (keepAlive : Bool) (length : String) :
    (⟨put (connectionField keepAlive) (put ⟨"Content-Encoding", "gzip"⟩ fields) ++ [⟨"Content-Length", length⟩]⟩ :
        Headers).erase "Content-Encoding" =
      ⟨put (connectionField keepAlive) fields ++ [⟨"Content-Length", length⟩]⟩ := by
  have connection : ∀ field, named (connectionField keepAlive).name field → (!named "Content-Encoding" field) = true := by
    intro field same
    have apart : Text.sameIgnoringCase "Connection" "Content-Encoding" = false := by decide
    rw [Headers.not_named_of_named apart same]
    rfl
  have encoding : ∀ field, named "Content-Encoding" field → (!named "Content-Encoding" field) = false := by
    intro field same
    rw [same]
    rfl
  have others : (fields.filter fun field => !named "Content-Encoding" field) = fields :=
    List.filter_eq_self.mpr fun field member => by rw [plain field member]; rfl
  have last : ([⟨"Content-Length", length⟩] : List Field).filter (fun field => !named "Content-Encoding" field) =
      [⟨"Content-Length", length⟩] := by
    have apart : named "Content-Encoding" ⟨"Content-Length", length⟩ = false :=
      (by decide : Text.sameIgnoringCase "Content-Length" "Content-Encoding" = false)
    rw [List.filter_singleton, apart]
    rfl
  rw [Headers.erase, List.filter_append, Headers.filter_put _ connection,
    Headers.filter_put_of_dropped ⟨"Content-Encoding", "gzip"⟩ encoding, others, last]

/-- The length that is declared last is replaced where it stands. -/
theorem set_length {fields : List Field} (none : ∀ field ∈ fields, ¬ named "Content-Length" field)
    (earlier length : String) :
    (⟨fields ++ [⟨"Content-Length", earlier⟩]⟩ : Headers).set "Content-Length" length =
      ⟨fields ++ [⟨"Content-Length", length⟩]⟩ := by
  have last : put ⟨"Content-Length", length⟩ [⟨"Content-Length", earlier⟩] = [⟨"Content-Length", length⟩] := by
    exact if_pos (Text.sameIgnoringCase_self "Content-Length")
  rw [Headers.set, Headers.put_append_of_new ⟨"Content-Length", length⟩ none, last]

theorem not_named_length_put (keepAlive : Bool) (h : Headers) :
    ∀ field ∈ put (connectionField keepAlive) (ownFields h), ¬ named "Content-Length" field := by
  have own : put (connectionField keepAlive) (ownFields h) =
      ownFields (h.set "Connection" (connectionField keepAlive).value) := (ownFields_set (by decide) h _).symm
  intro field member
  rw [own] at member
  exact (Wire.mem_ownFields.mp member).2

/-- A packed response unpacks to what would have come without packing. -/
theorem decode_readBack {packing : Packing} (lossless : ∀ body, packing.gunzip (packing.gzip body) = .ok body)
    (request : Request) {response : Response} (plain : response.headers.contains "Content-Encoding" = false)
    (keepAlive : Bool) (start : StatusLine) :
    decode packing (readBack (finishResponse keepAlive (compress packing request response)) start) =
      .ok (readBack (finishResponse keepAlive response) start) := by
  by_cases packs : Packs request response
  · have gzip : announced (readBack (finishResponse keepAlive (compress packing request response)) start).headers =
        .gzip := (announced_written keepAlive _).trans (ContentCoding.announced_compress packs packing)
    have body : (compress packing request response).body = packing.gzip response.body := by
      rw [ContentCoding.compress_of_packs packs]
      rfl
    have own : ownFields (compress packing request response).headers =
        put ⟨"Content-Encoding", "gzip"⟩ (ownFields response.headers) := by
      rw [ContentCoding.compress_of_packs packs, Message.setBody]
      exact (ownFields_set_length _ _).trans (ownFields_set (by decide) _ _)
    have others : ∀ field ∈ ownFields response.headers, named "Content-Encoding" field = false := by
      intro field member
      have absent := List.any_eq_false.mp plain field (Wire.mem_ownFields.mp member).1
      simpa using absent
    have unpacks : decode packing (readBack (finishResponse keepAlive (compress packing request response)) start) =
        .ok (ContentCoding.unpacked
          (readBack (finishResponse keepAlive (compress packing request response)) start) response.body) := by
      have read : (readBack (finishResponse keepAlive (compress packing request response)) start).body =
          packing.gzip response.body := body
      rw [ContentCoding.decode_of_gzip gzip, read, lossless]
      rfl
    rw [unpacks, ContentCoding.unpacked, readBack, readBack, Message.setBody, writtenFields_finishResponse,
      writtenFields_finishResponse, own]
    simp only [erase_encoding others, set_length (not_named_length_put keepAlive response.headers)]
    rfl
  · rw [ContentCoding.compress_of_not_packs packs]
    refine ContentCoding.decode_of_untouched ?_ packing
    exact (announced_written keepAlive response).trans (announced_of_plain plain)

/-- Some fields of what is written: those of the headers that are set, and the length if it is one of them. -/
theorem filter_written (p : Field → Bool) (keepAlive : Bool) (response : Response) :
    (writtenFields (finishResponse keepAlive response)).filter p =
      (put (connectionField keepAlive) (ownFields response.headers)).filter p ++
        bif p ⟨"Content-Length", decimal response.body.length⟩ then
          [⟨"Content-Length", decimal response.body.length⟩]
        else [] := by
  rw [writtenFields_finishResponse, List.filter_append, List.filter_singleton]

/-- What is read of a response that was not packed is what its client is to get. -/
theorem mirrors_readBack (keepAlive : Bool) {response : Response}
    (plain : response.headers.contains "Content-Encoding" = false) {start : StatusLine}
    (line : start = { response.start with reason := response.start.writtenReason }) :
    Mirrors keepAlive response (readBack (finishResponse keepAlive response) start) where
  start := line
  body := rfl
  contentLength := rfl
  length := by
    have none := List.filter_eq_nil_iff.mpr (not_named_length_put keepAlive response.headers)
    have length : named "Content-Length" ⟨"Content-Length", decimal response.body.length⟩ = true :=
      Text.sameIgnoringCase_self _
    rw [readBack, filter_written, none, length]
    rfl
  plain := by
    rw [← Headers.get?_eq_none_iff] at plain ⊢
    rw [readBack, Wire.get?_writtenFields (by decide), finishResponse, Headers.get?_set_of_ne (by decide), plain]
  connection := by
    have own := Headers.filter_named_put (connectionField keepAlive) (ownFields response.headers)
    have length : named "Connection" ⟨"Content-Length", decimal response.body.length⟩ = false :=
      (by decide : Text.sameIgnoringCase "Content-Length" "Connection" = false)
    rw [readBack, filter_written, length]
    exact (List.append_nil _).trans own
  others := by
    have length : named "Content-Length" ⟨"Content-Length", decimal response.body.length⟩ = true :=
      Text.sameIgnoringCase_self _
    have connection : ∀ field, named (connectionField keepAlive).name field →
        (!named "Content-Length" field && !named "Connection" field) = false := by
      intro field same
      have same : named "Connection" field = true := same
      rw [same, Bool.not_true, Bool.and_false]
    rw [readBack, filter_written, length, Headers.filter_put_of_dropped _ connection, ownFields, List.filter_filter]
    refine (List.append_nil _).trans (List.filter_congr fun field _ => ?_)
    cases named "Content-Length" field <;> simp

/-- Whatever came before on the connection and whatever the one who asked takes, a response that carries its body
comes to the client as the service made it, on whichever way it was packed and however it was cut on its way. -/
theorem response_delivered (packing : Packing) (lossless : ∀ body, packing.gunzip (packing.gzip body) = .ok body)
    (earlier : List Connection.Event) (request : Request) (response : Response)
    (queued : (fresh.run packing earlier).1.stage = .queued)
    (asked : lastEnqueued (fresh.run packing earlier).2 = some request) (bodied : request.start.method ≠ .head)
    (headers : response.headers.WireSafe) (line : response.start.WireSafe)
    (known : ∃ code, response.start.status = .ofCode code) (allowed : response.start.status.isBodiless = false)
    (plain : response.headers.contains "Content-Encoding" = false)
    (fits : (Wire.head (finishResponse request.keepAlive (compress packing request response))).length ≤ headLimit)
    (length : (compress packing request response).body.length < lengthBound)
    (x : Exchange κ) (entry : PoolEntry κ) (talking : x.stage = .talking entry .writing)
    (asksBody : x.request.start.method ≠ .head) :
    ∃ sent, ((fresh.run packing earlier).1.step packing (.replied (compress packing request response))).2 =
        [.send sent] ∧
      ∀ pieces : List Bytes, pieces.flatten = sent → (∀ piece ∈ pieces, piece ≠ []) →
        ∀ events : List (Pool κ × RoundTrip.Event), events.map Prod.snd = .written :: pieces.map .received →
          ∃ read, (x.after packing (events.map Exchange.onTraffic)).result? = some (.ok read) ∧
            Mirrors request.keepAlive response read := by
  refine ⟨_, step_answered queued asked _, fun pieces whole nonempty events traffic => ?_⟩
  have readable := readable_answer packing request request.keepAlive headers line fits length
  have may : StartLine.mayHaveBody (readLine response.start) = true := by
    rw [Wire.mayHaveBody_readLine, allowed]
    rfl
  have reads := readable.reads_serialize may
  have ignores : x.ignoresBody = false := by simpa [Exchange.ignoresBody] using asksBody
  have sent : pieces.flatten = Wire.serialize (finishResponse request.keepAlive (compress packing request response)) := by
    rw [whole, octets, if_neg (by simpa using bodied)]
  rw [← sent, ← ignores] at reads
  refine ⟨_, ?_, mirrors_readBack request.keepAlive plain (readLine_of_named known)⟩
  rw [Exchange.after_response talking nonempty reads packing events traffic,
    decode_readBack lossless request plain request.keepAlive]

/-- A long page goes packed to the one who takes it, with a stale length among its headers and no reason. -/
theorem response_delivered_packed :
    let page : Response :=
      ⟨⟨.ok, "", "HTTP/1.1"⟩, ⟨[⟨"content-length", "7"⟩, ⟨"Date", "now"⟩]⟩, none, List.replicate 1401 97⟩
    let packed : Bytes := [31, 139, 8, 0, 0, 0, 0, 0, 0, 255, 237, 192, 49, 1, 0, 0, 0, 194, 160, 172, 235, 95, 194, 22,
      94, 80, 0, 92, 13, 61, 137, 27, 44, 121, 5, 0, 0]
    let packing : Packing :=
      { gzip := fun body => if body = page.body then packed else 0 :: body
        gunzip := fun bytes => if bytes = packed then .ok page.body else .ok bytes.tail
        inflate := fun _ => .error (.zlib .corrupt) }
    let asked := Utf8.encode "GET / HTTP/1.1\r\nAccept-Encoding: gzip\r\nContent-Length: 0\r\n\r\n"
    let request : Request :=
      ⟨⟨.get, "/", "HTTP/1.1"⟩, ⟨[⟨"Accept-Encoding", "gzip"⟩, ⟨"Content-Length", "0"⟩]⟩, some 0, []⟩
    let x : Exchange Nat := ⟨.make "http" "a" 80, ⟨1024, .seconds 10, .seconds 30, "default"⟩,
      .make .get "/" "HTTP/1.1" [] [], .talking ⟨0, 1024, "default"⟩ .writing⟩
    ∃ sent, ((fresh.run packing [.received asked]).1.step packing (.replied (compress packing request page))).2 =
        [.send sent] ∧
      ∃ read, (x.after packing [(.empty, .traffic .written), (.empty, .traffic (.received sent))]).result? =
          some (.ok read) ∧ Mirrors true page read := by
  intro page packed packing asked request x
  have lossless : ∀ body, packing.gunzip (packing.gzip body) = .ok body := by
    intro body
    by_cases long : body = page.body
    · simp [packing, long]
    · simp [packing, long, packed]
  have queued : (fresh.run packing [.received asked]).1.stage = .queued := by decide +kernel
  have enqueued : lastEnqueued (fresh.run packing [.received asked]).2 = some request := by decide +kernel
  obtain ⟨sent, sends, delivered⟩ := response_delivered packing lossless [.received asked] request page queued enqueued
    (by decide) (by decide +kernel) (by decide +kernel) ⟨200, by decide⟩ (by decide) (by decide +kernel)
    (by decide +kernel) (by decide +kernel) x ⟨0, 1024, "default"⟩ rfl (by decide)
  have keeps : request.keepAlive = true := by decide +kernel
  rw [keeps] at delivered
  have nonempty := sent_ne_nil queued enqueued sends
  exact ⟨sent, sends, delivered [sent] (by simp) (by simpa using nonempty)
    [(.empty, .written), (.empty, .received sent)] rfl⟩

/-! ### Responses without their bodies -/

/-- An answer announces that it is packed if it is packed for the one who asked or was packed before. -/
theorem announced_compress_eq_untouched_iff (packing : Packing) (request : Request) (response : Response) :
    announced (compress packing request response).headers = .untouched ↔
      announced response.headers = .untouched ∧ ¬ Packs request response := by
  by_cases packs : Packs request response
  · simp [ContentCoding.announced_compress packs packing, packs]
  · rw [(ContentCoding.get?_compress packing request response).2 packs]
    simp [packs]

/-- A client that expects no body reads the head of an answer. -/
theorem reads_head {packing : Packing} {request : Request} {response : Response} {keepAlive : Bool}
    (readable : Readable (finishResponse keepAlive (compress packing request response)) (readLine response.start)) :
    Reads true (Wire.head (finishResponse keepAlive (compress packing request response))) (.ok .complete)
      (.done (some (headBack (finishResponse keepAlive (compress packing request response))
        (readLine response.start)))) := by
  have bodiless : ¬ Bodied true (headBack (finishResponse keepAlive (compress packing request response))
      (readLine response.start)) := fun bodied => by simpa using bodied.1
  have reads := readable.reads_head bodiless []
  rwa [List.append_nil] at reads

/-- A response that is read without a body is delivered with its status and no body exactly if its headers
announce no packing that is known, whatever the packing, as long as no packed stream is empty. For the head of what
a service makes, whatever came before on the connection, this means that the service did not pack the body and that
it is not packed for the one who asks. -/
theorem bodiless_delivered_iff (packing : Packing) (gunzip : ∀ body, packing.gunzip [] ≠ .ok body)
    (inflate : ∀ body, packing.inflate [] ≠ .ok body) :
    (∀ (x : Exchange κ) (events : List (Pool κ × Exchange.Event κ)) (entry : PoolEntry κ) (trip : RoundTrip)
        (heard : RoundTrip.Event) (m : Response) (pool : Pool κ), x.stage = .starting →
        (x.after packing events).stage = .talking entry trip →
        trip.step (x.after packing events).settings.readTimeout (x.after packing events).ignoresBody heard =
          .ended (.ok m) →
        (x.after packing events).ignoresBody = true ∨ m.start.status.isBodiless = true →
        ((∃ read, ((x.after packing events).step packing pool (.traffic heard)).exchange.result? = some (.ok read) ∧
            read.start = m.start ∧ read.body = []) ↔
          announced m.headers = .untouched)) ∧
    ∀ (earlier : List Connection.Event) (request : Request) (response : Response),
      (fresh.run packing earlier).1.stage = .queued →
      lastEnqueued (fresh.run packing earlier).2 = some request → request.start.method = .head →
      response.headers.WireSafe → response.start.WireSafe →
      (Wire.head (finishResponse request.keepAlive (compress packing request response))).length ≤ headLimit →
      (compress packing request response).body.length < lengthBound →
      ∃ sent, ((fresh.run packing earlier).1.step packing (.replied (compress packing request response))).2 =
          [.send sent] ∧
        ∀ (x : Exchange κ) (entry : PoolEntry κ), x.stage = .talking entry .writing → x.request.start.method = .head →
          ∀ pieces : List Bytes, pieces.flatten = sent → (∀ piece ∈ pieces, piece ≠ []) →
            ∀ events : List (Pool κ × RoundTrip.Event), events.map Prod.snd = .written :: pieces.map .received →
              ((∃ read, (x.after packing (events.map Exchange.onTraffic)).result? = some (.ok read) ∧
                  read.start = readLine response.start ∧ read.body = []) ↔
                announced response.headers = .untouched ∧ ¬ Packs request response) := by
  constructor
  · intro x events entry trip heard m pool starting talking complete bodiless
    have engaged := (Exchange.engaged_of_starting starting).after packing events
    obtain ⟨⟨input, reads⟩, result⟩ := engaged.completes talking complete packing pool
    have empty : m.body = [] := by
      refine reads.body_eq_nil fun bodied => ?_
      rcases bodiless with ignores | excluded
      · rw [bodied.1] at ignores
        cases ignores
      · have may : StartLine.mayHaveBody m.start = true := bodied.2
        simp [StartLine.mayHaveBody, excluded] at may
    rw [result, ← ContentCoding.decode_empty_iff gunzip inflate empty]
    simp
  · intro earlier request response queued asked head headers line fits length
    refine ⟨_, step_answered queued asked _, fun x entry talking asksHead pieces whole nonempty events traffic => ?_⟩
    have reads := reads_head (readable_answer packing request request.keepAlive headers line fits length)
    have ignores : x.ignoresBody = true := by simpa [Exchange.ignoresBody] using asksHead
    rw [octets, if_pos (by simpa using head)] at whole
    rw [← whole, ← ignores] at reads
    rw [Exchange.after_response talking nonempty reads packing events traffic,
      ← announced_compress_eq_untouched_iff packing, ← announced_written request.keepAlive]
    have delivered := ContentCoding.decode_empty_iff gunzip inflate (m := headBack (finishResponse request.keepAlive
      (compress packing request response)) (readLine response.start)) rfl
    rw [headBack] at delivered ⊢
    rw [← delivered]
    simp

/-- A tag of a page that was asked for alone, as some server sends it and as a service gives it. -/
theorem bodiless_delivered_tag :
    let request : Request := .make .head "/page" "HTTP/1.1" [] []
    let x (stage : ExchangeStage Nat) : Exchange Nat :=
      ⟨.make "http" "a" 80, ⟨1024, .seconds 10, .seconds 30, "default"⟩, request, stage⟩
    let begun : List (Pool Nat × Exchange.Event Nat) :=
      [(.empty, .begin fun _ => true), (.empty, .opened 0), (.empty, .traffic .written)]
    let reply := Utf8.encode "HTTP/1.1 200 OK\r\nETag: t\r\n\r\n"
    let asked := Utf8.encode "HEAD /page HTTP/1.1\r\nContent-Length: 0\r\n\r\n"
    let page : Response := ⟨⟨.ok, "OK", "HTTP/1.1"⟩, ⟨[⟨"ETag", "t"⟩]⟩, none, [104, 105]⟩
    (∃ read, (((x .starting).after .standard begun).step .standard .empty (.traffic (.received reply))).exchange.result? =
        some (.ok read) ∧ read.start = ⟨.ok, "OK", "HTTP/1.1"⟩ ∧ read.body = []) ∧
      ∃ sent, ((fresh.run .standard [.received asked]).1.step .standard
          (.replied (compress .standard request page))).2 = [.send sent] ∧
        ∃ read, ((x (.talking ⟨0, 1024, "default"⟩ .writing)).after .standard
            [(.empty, .traffic .written), (.empty, .traffic (.received sent))]).result? = some (.ok read) ∧
          read.start = ⟨.ok, "OK", "HTTP/1.1"⟩ ∧ read.body = [] := by
  intro request x begun reply asked page
  have complete : RoundTrip.read (.freshIgnoring true) reply =
      .ended (.ok ⟨⟨.ok, "OK", "HTTP/1.1"⟩, ⟨[⟨"ETag", "t"⟩]⟩, none, []⟩) :=
    RoundTrip.read_complete (by decide +kernel) (by decide +kernel) (by decide +kernel)
  have queued : (fresh.run .standard [.received asked]).1.stage = .queued := by decide +kernel
  have enqueued : lastEnqueued (fresh.run .standard [.received asked]).2 = some request := by decide +kernel
  have gunzip : ∀ body, Packing.standard.gunzip [] ≠ .ok body := by simp [ContentCoding.gunzip_nil]
  have inflate : ∀ body, Packing.standard.inflate [] ≠ .ok body := by simp [ContentCoding.inflate_nil]
  constructor
  · exact ((bodiless_delivered_iff .standard gunzip inflate).1 (x .starting) begun ⟨0, 1024, "default"⟩
      (.reading (.freshIgnoring true)) (.received reply) _ .empty rfl rfl complete (.inl rfl)).mpr (by decide +kernel)
  · obtain ⟨sent, sends, delivered⟩ := (bodiless_delivered_iff .standard gunzip inflate).2 [.received asked] request page
      queued enqueued rfl (by decide +kernel) (by decide +kernel) (by decide +kernel) (by decide +kernel)
    have nonempty := sent_ne_nil queued enqueued sends
    have unpacked : announced page.headers = .untouched ∧ ¬ Packs request page := by
      refine ⟨by decide +kernel, fun packs => ?_⟩
      have long : ¬ ContentCoding.threshold < page.body.length := by decide
      exact long packs.1
    exact ⟨sent, sends, (delivered (x (.talking ⟨0, 1024, "default"⟩ .writing)) _ rfl rfl [sent] (by simp)
      (by simpa using nonempty) [(.empty, .written), (.empty, .received sent)] rfl).mpr unpacked⟩

/-- A page that the service packed itself is delivered to the one who gets it and lost to the one who asks for
its head. -/
theorem not_bodiless_delivered_packed :
    let packed : Bytes := [31, 139, 8, 0, 0, 0, 0, 0, 0, 255, 1, 2, 0, 253, 255, 104, 105, 172, 42, 147, 216, 2, 0, 0, 0]
    let page : Response := ⟨⟨.ok, "OK", "HTTP/1.1"⟩, ⟨[⟨"Content-Encoding", "gzip"⟩]⟩, none, packed⟩
    let request (method : Method) : Request := .make method "/page" "HTTP/1.1" [] []
    let answer (method : Method) : List Connection.Effect :=
      ((fresh.run .standard [.received (Wire.serialize (request method))]).1.step .standard
        (.replied (compress .standard (request method) page))).2
    let result (method : Method) (sent : Bytes) : Option (Except Failure Response) :=
      ((⟨.make "http" "a" 80, ⟨1024, .seconds 10, .seconds 30, "default"⟩, request method, .starting⟩ :
        Exchange Nat).after .standard [(.empty, .begin fun _ => true), (.empty, .opened 0), (.empty, .traffic .written),
          (.empty, .traffic (.received sent))]).result?
    let head := Utf8.encode
      "HTTP/1.1 200 OK\r\nContent-Encoding: gzip\r\nConnection: Keep-Alive\r\nContent-Length: 25\r\n\r\n"
    (answer .get = [.send (head ++ packed)] ∧
        ((result .get (head ++ packed)).bind Except.toOption).map Message.body = some [104, 105]) ∧
      answer .head = [.send head] ∧ result .head head = some (.error (.decompress (.gzip .cutShort))) := by
  decide +kernel

end HttpExchange.Delivery
