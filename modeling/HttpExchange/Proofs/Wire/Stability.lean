import HttpExchange.Proofs.Wire
import HttpExchange.Proofs.Parser.Completion

/-!
What was read can be written and read again. Whatever octets a message comes from, each of its parts keeps to its
place; written, it is one message for a reader, which reads the same start line, body and fields from it, and what
that reader has is written as the same octets.
-/
namespace HttpExchange
variable {S : Type}
open Bytes (Unbroken)
open Text (OneLine)

namespace Parser
variable [StartLine S]

omit [StartLine S] in
/-- The field of a header line keeps to its line, whatever the octets of the line are. -/
theorem wireSafe_of_fieldOf? {line : Bytes} {field : Field} (unbroken : Unbroken line)
    (found : fieldOf? line = some field) : field.WireSafe := by
  obtain ⟨⟨left, right⟩, halves, rfl⟩ := Option.map_eq_some_iff.mp found
  obtain ⟨nameLine, valueLine⟩ := (Utf8.oneLine_decodeLossy unbroken).of_cut? halves
  have colonless := (Text.cut?_eq_some_iff.mp halves).2
  exact ⟨⟨Text.trim_trim left, fun colon => colonless ((Text.infix_toList_trim left).mem colon), nameLine.trim⟩,
    Text.trim_trim right, valueLine.trim⟩

/-- What holds of a message that was read, whatever it was read from. -/
structure WellRead (m : Message S) : Prop where
  headers : m.headers.WireSafe
  start : ∃ text, OneLine text ∧ StartLine.ofText text = .ok m.start
  length : m.body.length < lengthBound
  bodiless : m.mayHaveBody = false → m.body = []

theorem HeadOf.wireSafe {start : Bytes} {lines : List Bytes} {m : Message S} (head : HeadOf start lines m)
    (unbroken : ∀ line ∈ lines, Unbroken line) : m.headers.WireSafe := by
  rw [head.headers]
  refine ⟨Headers.distinct_ofList _, fun field member => ?_⟩
  have given : field ∈ fieldsOf lines := mem_of_mem_lengthOnce (Headers.mem_of_mem_ofList member)
  obtain ⟨line, inside, found⟩ := List.mem_filterMap.mp given
  exact wireSafe_of_fieldOf? (unbroken line inside) found

theorem HeadOf.length_lt {start : Bytes} {lines : List Bytes} {m : Message S} (head : HeadOf start lines m)
    {length : Nat} (known : m.contentLength = some length) : length < lengthBound := by
  have declared := head.declared
  rw [known] at declared
  exact declared.1

theorem HeadOf.oneLine {start : Bytes} {lines : List Bytes} {m : Message S} (head : HeadOf start lines m)
    (unbroken : Unbroken start) : ∃ text, OneLine text ∧ StartLine.ofText text = .ok m.start := by
  obtain ⟨text, rfl, read⟩ := head.start
  exact ⟨text, Utf8.oneLine_of_unbroken_encode unbroken, read⟩

/-- The lines before the blank one that ends a head are its lines, and blank ones before them. -/
theorem AtLine.headOf {input rest : Bytes} {before : List Bytes} {m : Message S}
    (place : AtLine input before [] rest (.headers m)) :
    ∃ start lines, HeadOf start lines m ∧ Unbroken start ∧ ∀ line ∈ lines, Unbroken line := by
  have unbroken := place.unbroken
  cases place.awaits with
  | @headers blank lines start _ all head =>
    exact ⟨start, lines, head, unbroken start (by simp), fun line member => unbroken line (by simp [member])⟩

theorem Reads.wellRead {ignore : Bool} {input : Bytes} {m : Message S}
    (reads : Reads ignore input (.ok .complete) (.done (some m))) : WellRead m := by
  cases reads with
  | headOnly place bodiless =>
    obtain ⟨start, lines, head, first, unbroken⟩ := place.headOf
    refine ⟨head.wireSafe unbroken, head.oneLine first, ?_, fun _ => head.body⟩
    rw [head.body]
    decide
  | @whole before body surplus m place bodied declared =>
    obtain ⟨start, lines, head, first, unbroken⟩ := place.headOf
    have line : ∃ text, OneLine text ∧ StartLine.ofText text = .ok m.start := head.oneLine first
    refine ⟨head.wireSafe unbroken, line, head.length_lt declared, fun excluded => ?_⟩
    have may : m.mayHaveBody = false := excluded
    rw [bodied.2] at may
    cases may

theorem wellRead_of_complete {ignore : Bool} {octets : Bytes}
    (complete : ((freshIgnoring ignore : Parser S).feed octets).1 = .ok .complete) :
    ∃ m, ((freshIgnoring ignore : Parser S).feed octets).2.awaiting = .done (some m) ∧ WellRead m := by
  have reads : Reads ignore octets _ _ := reads_feed (S := S) ignore octets
  simp only [outcome, complete] at reads
  obtain ⟨m, state⟩ := reads.message
  rw [state] at reads
  exact ⟨m, state, reads.wellRead⟩

end Parser

namespace Wire
open HttpExchange.Parser (headLimit Reads Bodied freshIgnoring wellRead_of_complete)
variable [StartLine S]

/-- Written and read again, the message is the same but for where and how its length is declared, and it is written
as the same octets once more. -/
structure Restored (m : Message S) : Prop where
  framed : Framed S false (serialize m)
  again : ∃ later, ((Parser.fresh : Parser S).feed (serialize m)).2.awaiting = .done (some later) ∧
    StartLine.toText later.start = StartLine.toText m.start ∧ later.body = m.body ∧
      ownFields later.headers = ownFields m.headers ∧ later.contentLength = some m.body.length ∧
        serialize later = serialize m

omit [StartLine S] in
theorem ownFields_readBack (m : Message S) (start : S) :
    ownFields (readBack m start).headers = ownFields m.headers := by
  have length : Headers.named "Content-Length" (lengthField m) = true := isLength_lengthField m
  simp [readBack, writtenFields, ownFields, length, List.filter_filter]

/-- What decides about the octets of a message: the text of its start line, the fields it has but for its length, and
its body. -/
theorem serialize_congr {m later : Message S} (start : StartLine.toText later.start = StartLine.toText m.start)
    (fields : ownFields later.headers = ownFields m.headers) (body : later.body = m.body) :
    serialize later = serialize m := by
  rw [serialize, serialize, head, head, start, fields, body]

theorem Readable.restored {m : Message S} {start : S} (readable : Readable m start)
    (text : StartLine.toText start = StartLine.toText m.start)
    (bodiless : StartLine.mayHaveBody start = false → m.body = []) : Restored m := by
  have reads : Reads false (serialize m) (.ok .complete) (.done (some (readBack m start))) := by
    cases bodied : StartLine.mayHaveBody start with
    | true => exact readable.reads_serialize bodied
    | false =>
      have excluded : ¬ Bodied false (headBack m start) := fun may => by
        have may : StartLine.mayHaveBody start = true := may.2
        rw [bodied] at may
        cases may
      have reads := readable.reads_head excluded m.body
      have empty := bodiless bodied
      rwa [headBack, ← empty] at reads
  refine ⟨readable.framed_serialize_iff.mpr ?_, readBack m start, reads.state, text, rfl, ownFields_readBack m start,
    rfl, serialize_congr text (ownFields_readBack m start) rfl⟩
  cases bodied : StartLine.mayHaveBody start with
  | true => exact .inl rfl
  | false => exact .inr (bodiless bodied)

/-- A status line that was read is written the same way when it is read again. -/
theorem toText_readLine {line : StatusLine} (named : ∃ code, line.status = .ofCode code) :
    StatusLine.toText (readLine line) = StatusLine.toText line := by
  obtain ⟨code, named⟩ := named
  have same : Status.ofCode line.status.code = line.status := by rw [named, Status.code_ofCode]
  have reason : (readLine line).writtenReason = line.writtenReason := by
    rw [readLine, same]
    by_cases empty : line.writtenReason.isEmpty
    · -- Nothing is written only where neither a reason nor a phrase is there.
      have phrase : line.writtenReason = line.status.phrase := by
        by_cases unreasoned : line.reason.isEmpty
        · rw [StatusLine.writtenReason, if_pos unreasoned]
        · rw [StatusLine.writtenReason, if_neg unreasoned] at empty
          exact absurd empty unreasoned
      exact (if_pos empty).trans phrase.symm
    · exact if_neg empty
  rw [StatusLine.toText, reason, readLine, same, StatusLine.toText]

/-- Reading and writing settle on what they come to at first: a message that was read, whatever the octets were and
whether its body was ignored, keeps to its places, and unless its head is too long it is written and read again
without a change. -/
theorem restored_of_feed (ignore : Bool) (octets : Bytes) :
    (((freshIgnoring ignore : Parser RequestLine).feed octets).1 = .ok .complete →
      ∃ r : Request, ((freshIgnoring ignore : Parser RequestLine).feed octets).2.awaiting = .done (some r) ∧
        r.headers.WireSafe ∧ r.start.WireSafe ∧ ((head r).length ≤ headLimit → Restored r)) ∧
    (((freshIgnoring ignore : Parser StatusLine).feed octets).1 = .ok .complete →
      ∃ r : Response, ((freshIgnoring ignore : Parser StatusLine).feed octets).2.awaiting = .done (some r) ∧
        r.headers.WireSafe ∧ r.start.WireSafe ∧ (∃ code, r.start.status = .ofCode code) ∧
          ((head r).length ≤ headLimit → Restored r)) := by
  constructor
  · intro complete
    obtain ⟨r, state, read⟩ := wellRead_of_complete complete
    obtain ⟨text, -, line⟩ := read.start
    have start : r.start.WireSafe := RequestLine.wireSafe_of_ofText line
    refine ⟨r, state, read.headers, start, fun fits => ?_⟩
    exact (readable_request read.headers start fits read.length).restored rfl nofun
  · intro complete
    obtain ⟨r, state, read⟩ := wellRead_of_complete complete
    obtain ⟨text, oneLine, line⟩ := read.start
    obtain ⟨start, named⟩ := StatusLine.wireSafe_of_ofText oneLine line
    refine ⟨r, state, read.headers, start, named, fun fits => ?_⟩
    refine (readable_response read.headers start fits read.length).restored (toText_readLine named) fun excluded => ?_
    rw [mayHaveBody_readLine] at excluded
    exact read.bodiless excluded

/-- A request with malformed UTF-8, white space of many kinds, a lone CR, a line without a colon, a nameless field,
lengths with signs and repeated names; and a response without a reason of which the body is ignored. -/
theorem restored_of_feed_odd :
    let asked : Bytes := Utf8.encode "\r\nPUT\t/a?b\u00A0HTTP/1.1\r\nX:" ++ [0xFF, 13, 0x20, 0xE2, 0x82] ++
      Utf8.encode "\u2003\r\nVia:1\r\nno colon\r\n" ++
        Utf8.encode "content-length : +3\r\nVIA: y:\tz \r\n:\r\nContent-Length:03\r\n\r\nabcde"
    let answered : Bytes := Utf8.encode "HTTP/1.1 +299\t\r\nContent-Length: 7\r\n\r\n"
    let request : Request := ⟨⟨.put, "/a?b", "HTTP/1.1"⟩,
      ⟨[⟨"X", "\uFFFD\r \uFFFD"⟩, ⟨"VIA", "y:\tz"⟩, ⟨"content-length", "+3"⟩, ⟨"", ""⟩]⟩, some 3, [97, 98, 99]⟩
    let response : Response := ⟨⟨.other 299, "", "HTTP/1.1"⟩, ⟨[⟨"Content-Length", "7"⟩]⟩, some 7, []⟩
    (((freshIgnoring false : Parser RequestLine).feed asked).1 = .ok .complete ∧
      ((freshIgnoring false : Parser RequestLine).feed asked).2.awaiting = .done (some request) ∧ Restored request) ∧
    ((freshIgnoring true : Parser StatusLine).feed answered).1 = .ok .complete ∧
      ((freshIgnoring true : Parser StatusLine).feed answered).2.awaiting = .done (some response) ∧
        Restored response := by
  intro asked answered request response
  have requestComplete : ((freshIgnoring false : Parser RequestLine).feed asked).1 = .ok .complete := by
    decide +kernel
  have requestRead : ((freshIgnoring false : Parser RequestLine).feed asked).2.awaiting = .done (some request) := by
    decide +kernel
  have responseComplete : ((freshIgnoring true : Parser StatusLine).feed answered).1 = .ok .complete := by
    decide +kernel
  have responseRead : ((freshIgnoring true : Parser StatusLine).feed answered).2.awaiting = .done (some response) := by
    decide +kernel
  constructor
  · obtain ⟨r, state, -, -, restored⟩ := (restored_of_feed false asked).1 requestComplete
    obtain rfl : request = r := by
      rw [requestRead] at state
      cases state
      rfl
    exact ⟨requestComplete, requestRead, restored (by decide +kernel)⟩
  · obtain ⟨r, state, -, -, -, restored⟩ := (restored_of_feed true answered).2 responseComplete
    obtain rfl : response = r := by
      rw [responseRead] at state
      cases state
      rfl
    exact ⟨responseComplete, responseRead, restored (by decide +kernel)⟩

end Wire
end HttpExchange
