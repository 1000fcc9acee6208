import HttpExchange.Wire
import HttpExchange.Proofs.StartLine
import HttpExchange.Proofs.Parser.Completion

/-!
What is written is read back. A message whose parts keep to their places is written as lines that a reader
takes apart where they were put together; the length that is written tells where the message ends, so the
reader is done with the last octet and not before.
-/
namespace HttpExchange
variable {S : Type}
open Bytes (crlf ended Unbroken)
open Text (OneLine trim decimal)

/-- The name and the value are trimmed lines, and no colon ends the name early. -/
@[mk_iff]
structure Field.WireSafe (field : Field) : Prop where
  name : trim field.name = field.name ∧ ':' ∉ field.name.toList ∧ OneLine field.name
  value : trim field.value = field.value ∧ OneLine field.value

/-- The names are distinct, as setting fields makes them, and every field keeps to its line. -/
@[mk_iff]
structure Headers.WireSafe (h : Headers) : Prop where
  distinct : Distinct h.fields
  fields : ∀ field ∈ h.fields, field.WireSafe

instance (field : Field) : Decidable field.WireSafe := decidable_of_iff _ (Field.wireSafe_iff field).symm

instance (h : Headers) : Decidable h.WireSafe := decidable_of_iff _ (Headers.wireSafe_iff h).symm

/-- The octets are one message for a reader: it is done with the last of them and not before. -/
def Framed (S : Type) [StartLine S] (ignore : Bool) (octets : Bytes) : Prop :=
  ((Parser.freshIgnoring ignore : Parser S).feed octets).1 = .ok .complete ∧
    ∀ part, part <+: octets → part ≠ octets →
      ((Parser.freshIgnoring ignore : Parser S).feed part).1 ≠ .ok .complete

namespace Wire
open HttpExchange.Parser (fieldOf? fieldsOf IsLength Declare lengthOnce lengthBound headLimit HeadOf AtLine Awaits
  Bodied Position Reads)

/-- The field that is written for the length of the body. -/
def lengthField (m : Message S) : Field := ⟨"Content-Length", decimal m.body.length⟩

def writtenFields (m : Message S) : List Field := ownFields m.headers ++ [lengthField m]

def fieldText (field : Field) : String := field.name ++ ":" ++ (" " ++ field.value)

/-- The lines of a head but for the start line. -/
def headerLines (m : Message S) : List Bytes := (writtenFields m).map fun field => Utf8.encode (fieldText field)

def headLines [StartLine S] (m : Message S) : List Bytes :=
  Utf8.encode (StartLine.toText m.start) :: headerLines m

/-- What is read back, with the start line as it is read. -/
def readBack (m : Message S) (start : S) : Message S := ⟨start, ⟨writtenFields m⟩, some m.body.length, m.body⟩

/-- What is read back of the head. -/
def headBack (m : Message S) (start : S) : Message S := ⟨start, ⟨writtenFields m⟩, some m.body.length, []⟩

/-! ### Lines -/

theorem fieldLine_eq (field : Field) : fieldLine field = Utf8.encode (fieldText field) ++ crlf := by
  have separator : Utf8.encode ":" ++ Utf8.encode " " = [58, 32] := by decide
  rw [fieldLine, fieldText, Utf8.encode_append, Utf8.encode_append, Utf8.encode_append, ← separator]
  simp only [List.append_assoc]

theorem head_ne_nil [StartLine S] (m : Message S) : head m ≠ [] := by simp [head, crlf]

theorem serialize_ne_nil [StartLine S] (m : Message S) : serialize m ≠ [] := by simp [serialize, head_ne_nil]

/-- A head is its lines, each with its end, and a blank one. -/
theorem head_eq [StartLine S] (m : Message S) : head m = ended (headLines m ++ [[]]) := by
  have fields : (ownFields m.headers).flatMap fieldLine =
      ended ((ownFields m.headers).map fun field => Utf8.encode (fieldText field)) := by
    rw [ended, List.flatMap_map]
    exact congrArg (List.flatMap · _) (funext fieldLine_eq)
  have length : fieldText (lengthField m) = "Content-Length: " ++ decimal m.body.length := by
    simp [fieldText, lengthField, ← String.append_assoc]
  rw [head, fields, ← length]
  simp [headLines, headerLines, writtenFields, ended, line, List.append_assoc]

/-- A field is read back as it was written. -/
theorem fieldOf?_fieldText {field : Field} (safe : field.WireSafe) :
    fieldOf? (Utf8.encode (fieldText field)) = some field := by
  rw [fieldOf?, Utf8.decodeLossy_encode, fieldText, Text.cut?_append safe.name.2.1 rfl]
  simp [safe.name.1, safe.value.1, Text.trim_space_append]

theorem oneLine_fieldText {field : Field} (safe : field.WireSafe) : OneLine (fieldText field) := by
  have empty : OneLine "" := by decide
  have value : OneLine ("" ++ " " ++ field.value) :=
    Text.oneLine_append empty safe.value.2 rfl (by decide) (by decide)
  rw [String.empty_append] at value
  exact Text.oneLine_append safe.name.2.2 value rfl (by decide) (by decide)

theorem encode_ne_nil {s : String} (nonempty : s.toList ≠ []) : Utf8.encode s ≠ [] := by
  obtain ⟨c, rest, parts⟩ := List.exists_cons_of_ne_nil nonempty
  simp [Utf8.encode, parts, Utf8.encodeChar_ne_nil]

/-! ### Fields -/

theorem wireSafe_lengthField (m : Message S) : (lengthField m).WireSafe where
  name := by
    have name : ∀ {s : String}, s = "Content-Length" → trim s = s ∧ ':' ∉ s.toList ∧ OneLine s := by
      rintro _ rfl
      decide +kernel
    exact name rfl
  value := ⟨Text.trim_of_blankless (Text.blankless_decimal _), Text.oneLine_of_blankless (Text.blankless_decimal _)⟩

theorem mem_ownFields {h : Headers} {field : Field} : field ∈ ownFields h ↔ field ∈ h.fields ∧ ¬ IsLength field := by
  simp [ownFields, IsLength]

theorem isLength_lengthField (m : Message S) : IsLength (lengthField m) := Headers.named_self (lengthField m)

theorem wireSafe_of_mem_writtenFields {m : Message S} (safe : m.headers.WireSafe) {field : Field}
    (member : field ∈ writtenFields m) : field.WireSafe := by
  rcases List.mem_append.mp member with own | length
  · exact safe.fields field (mem_ownFields.mp own).1
  · rw [List.mem_singleton.mp length]
    exact wireSafe_lengthField m

theorem distinct_writtenFields {m : Message S} (safe : m.headers.WireSafe) : Headers.Distinct (writtenFields m) := by
  refine List.pairwise_append.mpr
    ⟨safe.distinct.filter _, List.pairwise_singleton .., fun field own length last => ?_⟩
  rw [List.mem_singleton.mp last, Headers.named_comm field (lengthField m)]
  exact (mem_ownFields.mp own).2

theorem declare_ownFields (h : Headers) : Declare (ownFields h) none := fun _ own => (mem_ownFields.mp own).2

theorem lengthOnce_of_none {fields : List Field} (none : Declare fields none) : lengthOnce fields = fields := by
  induction fields with
  | nil => rfl
  | cons first rest ih =>
    rw [lengthOnce, if_neg (none first (by simp)), ih fun field member => none field (by simp [member])]

theorem lengthOnce_writtenFields (m : Message S) : lengthOnce (writtenFields m) = writtenFields m := by
  have own := declare_ownFields m.headers
  rw [writtenFields, Parser.lengthOnce_append fun _ => own, lengthOnce_of_none own]

theorem declare_writtenFields {m : Message S} (below : m.body.length < lengthBound) :
    Declare (writtenFields m) (some m.body.length) :=
  (declare_ownFields m.headers).append_first (isLength_lengthField m) (Text.denotes_decimal _) below

/-- Of every other name, what is written is what the headers hold. -/
theorem get?_writtenFields {name : String} (apart : Text.sameIgnoringCase "Content-Length" name = false)
    (m : Message S) : (⟨writtenFields m⟩ : Headers).get? name = m.headers.get? name := by
  have own : (ownFields m.headers).find? (Headers.named name) = m.headers.fields.find? (Headers.named name) := by
    have kept : ∀ field, Headers.named name field → Headers.named "Content-Length" field = false := fun _ =>
      Headers.not_named_of_named (by rwa [Text.sameIgnoringCase_comm])
    rw [ownFields, List.find?_filter]
    refine congrArg (List.find? · _) (funext fun field => ?_)
    cases asked : Headers.named name field with
    | false => simp
    | true => simp [kept field asked]
  have length : [lengthField m].find? (Headers.named name) = none := by
    simp [Headers.named, lengthField, apart]
  rw [Headers.get?, Headers.get?, writtenFields, List.find?_append, own, length, Option.or_none]

theorem fieldsOf_headerLines {m : Message S} (safe : m.headers.WireSafe) :
    fieldsOf (headerLines m) = writtenFields m := by
  unfold fieldsOf headerLines
  rw [List.filterMap_map]
  refine (List.filterMap_congr fun field member => ?_).trans List.filterMap_some
  exact fieldOf?_fieldText (wireSafe_of_mem_writtenFields safe member)

/-! ### A head and what is behind it -/
variable [StartLine S]

/-- The lines are a head within the limit once a blank line ends it. -/
structure IsHead (start : Bytes) (lines : List Bytes) (m : Message S) : Prop where
  unbroken : ∀ line ∈ start :: lines, Unbroken line
  fits : (ended (start :: lines ++ [[]])).length ≤ headLimit
  headOf : HeadOf start lines m

namespace IsHead
variable {start : Bytes} {lines : List Bytes} {m : Message S}

/-- Behind the lines of the head, a blank line is next. -/
theorem atBlank (isHead : IsHead start lines m) (rest : Bytes) :
    AtLine (ended (start :: lines ++ [[]]) ++ rest) (start :: lines) [] rest (.headers m) := by
  have fits := isHead.fits
  rw [Bytes.ended_append, Bytes.ended_singleton, List.length_append, List.nil_append,
    show crlf.length = 2 from rfl] at fits
  refine ⟨⟨?_, isHead.unbroken, by omega, ?_⟩, Bytes.unbroken_nil, by simpa using fits⟩
  · rw [Bytes.ended_append, Bytes.ended_singleton, List.append_assoc, List.nil_append]
  · have none : ∀ line ∈ ([] : List Bytes), line = [] := by simp
    exact .headers none isHead.headOf

/-- Some first lines of the head, and what they are waiting for. -/
theorem awaits (isHead : IsHead start lines m) {before : List Bytes} (first : before <+: start :: lines) :
    ∃ state : Awaiting S, Awaits before state := by
  cases before with
  | nil => exact ⟨_, .startLine (by simp)⟩
  | cons line earlier =>
    obtain ⟨rfl, later, more⟩ := List.cons_prefix_cons.mp first
    have head := isHead.headOf
    rw [← more] at head
    obtain ⟨m, head⟩ := head.of_append
    have none : ∀ line ∈ ([] : List Bytes), line = [] := by simp
    exact ⟨_, .headers none head⟩

/-- A proper beginning of the head makes a reader wait for more. -/
theorem reads_part (isHead : IsHead start lines m) (ignore : Bool) {part : Bytes}
    (inside : part <+: ended (start :: lines ++ [[]])) (proper : part ≠ ended (start :: lines ++ [[]])) :
    ∃ state : Awaiting S, Reads ignore part (.ok .needMore) state := by
  have fits : part.length ≤ headLimit := inside.length_le.trans isHead.fits
  have unbroken : ∀ line ∈ start :: lines ++ [[]], Unbroken line := by
    intro line member
    rcases List.mem_append.mp member with inside | last
    · exact isHead.unbroken line inside
    · rw [List.mem_singleton.mp last]
      exact Bytes.unbroken_nil
  obtain ⟨before, line, rest, first, rfl, unfinished⟩ := Bytes.exists_of_prefix_ended unbroken inside proper
  obtain ⟨more, whole⟩ := first
  have early : before <+: start :: lines := by
    have inside : before <+: start :: lines ++ [[]] := ⟨line :: more, by simpa using whole⟩
    refine List.prefix_of_prefix_length_le inside (List.prefix_append _ _) ?_
    have := congrArg List.length whole
    simp only [List.length_append, List.length_cons, List.length_nil] at this ⊢
    omega
  obtain ⟨state, awaits⟩ := isHead.awaits early
  have within : (ended before).length ≤ headLimit := by
    rw [List.length_append] at fits
    omega
  refine ⟨state, .waiting ⟨rfl, fun line member => ?_, within, awaits⟩ unfinished fits⟩
  exact isHead.unbroken line (early.mem member)

/-- A reader that expects a body is done with the head and the body. -/
theorem reads_body (isHead : IsHead start lines m) (bodied : m.mayHaveBody = true) {body : Bytes}
    (declared : m.contentLength = some body.length) :
    Reads false (ended (start :: lines ++ [[]]) ++ body) (.ok .complete) (.done (some { m with body })) := by
  have place := isHead.atBlank body
  rw [← List.append_nil body] at place
  have reads := Reads.whole place ⟨rfl, bodied⟩ declared
  rwa [List.append_nil] at reads

/-- A head is all there is for a reader that expects no body. -/
theorem framed (isHead : IsHead start lines m) {ignore : Bool} (bodiless : ¬ Bodied ignore m) :
    Framed S ignore (ended (start :: lines ++ [[]])) := by
  constructor
  · have reads := Reads.headOnly (isHead.atBlank []) bodiless
    rw [List.append_nil] at reads
    exact reads.result
  · intro part inside proper
    obtain ⟨state, reads⟩ := isHead.reads_part ignore inside proper
    rw [reads.result]
    simp

/-- The head and the body are all there is for a reader that expects a body. -/
theorem framed_body (isHead : IsHead start lines m) (bodied : m.mayHaveBody = true) {body : Bytes}
    (declared : m.contentLength = some body.length) : Framed S false (ended (start :: lines ++ [[]]) ++ body) := by
  constructor
  · exact (isHead.reads_body bodied declared).result
  · intro part inside proper
    obtain ⟨state, reads⟩ : ∃ state, Reads false part (.ok .needMore) (state : Awaiting S) := by
      by_cases complete : ended (start :: lines ++ [[]]) <+: part
      · obtain ⟨begun, rfl⟩ := complete
        have within : begun <+: body := (List.prefix_append_right_inj _).mp inside
        have short : begun.length < body.length :=
          within.length_le.lt_of_ne fun same => proper (by rw [within.eq_of_length same])
        exact ⟨_, .part (isHead.atBlank begun) ⟨rfl, bodied⟩ declared short⟩
      · have within : part <+: ended (start :: lines ++ [[]]) :=
          (List.prefix_or_prefix_of_prefix inside (List.prefix_append _ _)).resolve_right complete
        exact isHead.reads_part false within fun same => complete (same ▸ List.prefix_refl _)
    rw [reads.result]
    simp

end IsHead

/-! ### Reading back -/

theorem nonblank_headLines {m : Message S} (text : (StartLine.toText m.start).toList ≠ []) :
    ∀ line ∈ headLines m, line ≠ [] := by
  intro line member
  rcases List.mem_cons.mp member with rfl | member
  · exact encode_ne_nil text
  · obtain ⟨field, -, rfl⟩ := List.mem_map.mp member
    exact encode_ne_nil (by simp [fieldText])

theorem unbroken_headLines {m : Message S} (headers : m.headers.WireSafe)
    (text : OneLine (StartLine.toText m.start)) : ∀ line ∈ headLines m, Unbroken line := by
  intro line member
  rcases List.mem_cons.mp member with rfl | member
  · exact Utf8.unbroken_encode text
  · obtain ⟨field, written, rfl⟩ := List.mem_map.mp member
    exact Utf8.unbroken_encode (oneLine_fieldText (wireSafe_of_mem_writtenFields headers written))

/-- What is read of a message has the fields that are written, wherever its reader comes to an end. -/
theorem headers_of_reads {m read : Message S} (headers : m.headers.WireSafe)
    (text : (StartLine.toText m.start).toList ≠ [] ∧ OneLine (StartLine.toText m.start)) {ignore : Bool}
    {input : Bytes} (inside : input <+: serialize m)
    (reads : Reads ignore input (.ok .complete) (.done (some read))) : read.headers = ⟨writtenFields m⟩ := by
  have settled : ∀ {before rest m'}, AtLine input before [] rest (.headers (m' : Message S)) →
      m'.headers = ⟨writtenFields m⟩ := by
    intro before rest m' place
    obtain ⟨more, whole⟩ := inside
    rw [serialize, head_eq] at whole
    obtain ⟨head, -⟩ := place.same_head (nonblank_headLines text.1) (unbroken_headLines headers text.2) whole
    rw [head.headers, fieldsOf_headerLines headers, lengthOnce_writtenFields,
      Headers.ofList_of_distinct (distinct_writtenFields headers)]
  cases reads with
  | headOnly place => exact settled place
  | whole place =>
    have same := settled place
    exact same

/-- What a message must be like to be read back, with the start line that is read from the one written. -/
structure Readable (m : Message S) (start : S) : Prop where
  headers : m.headers.WireSafe
  text : (StartLine.toText m.start).toList ≠ [] ∧ OneLine (StartLine.toText m.start)
  start : StartLine.ofText (StartLine.toText m.start) = .ok start
  fits : (head m).length ≤ headLimit
  length : m.body.length < lengthBound

variable {m : Message S} {start : S}

theorem Readable.isHead (readable : Readable m start) :
    IsHead (Utf8.encode (StartLine.toText m.start)) (headerLines m) (headBack m start) where
  unbroken := unbroken_headLines readable.headers readable.text.2
  fits := by
    have fits := readable.fits
    rwa [head_eq] at fits
  headOf :=
    { nonblank := List.forall_mem_cons.mp (nonblank_headLines readable.text.1)
      start := ⟨_, rfl, readable.start⟩
      declared := by
        rw [fieldsOf_headerLines readable.headers]
        exact declare_writtenFields readable.length
      headers := by
        rw [fieldsOf_headerLines readable.headers, lengthOnce_writtenFields,
          Headers.ofList_of_distinct (distinct_writtenFields readable.headers)]
        rfl
      body := rfl }

/-- A reader that expects no body is done with the head. -/
theorem Readable.reads_head (readable : Readable m start) {ignore : Bool}
    (bodiless : ¬ Bodied ignore (headBack m start)) (rest : Bytes) :
    Reads ignore (head m ++ rest) (.ok .complete) (.done (some (headBack m start))) := by
  rw [head_eq]
  exact .headOnly (readable.isHead.atBlank rest) bodiless

/-- Any other is done with the whole message. -/
theorem Readable.reads_serialize (readable : Readable m start) (bodied : StartLine.mayHaveBody start = true) :
    Reads false (serialize m) (.ok .complete) (.done (some (readBack m start))) := by
  rw [serialize, head_eq]
  exact readable.isHead.reads_body bodied rfl

/-! ### Framing -/

/-- A head is all there is for a reader that expects no body. -/
theorem Readable.framed_head (readable : Readable m start) {ignore : Bool}
    (bodiless : ¬ Bodied ignore (headBack m start)) : Framed S ignore (head m) := by
  rw [head_eq]
  exact readable.isHead.framed bodiless

/-- A message is all there is for a reader that expects a body. -/
theorem Readable.framed_serialize (readable : Readable m start) (bodied : StartLine.mayHaveBody start = true) :
    Framed S false (serialize m) := by
  rw [serialize, head_eq]
  exact readable.isHead.framed_body bodied rfl

/-- Without ignoring bodies, a message is all there is unless it has a body although its start line excludes
one: then the body is left over. -/
theorem Readable.framed_serialize_iff (readable : Readable m start) :
    Framed S false (serialize m) ↔ StartLine.mayHaveBody start = true ∨ m.body = [] := by
  by_cases bodied : StartLine.mayHaveBody start = true
  · exact iff_of_true (readable.framed_serialize bodied) (.inl bodied)
  · have headFramed : Framed S false (head m) := readable.framed_head fun body => bodied body.2
    constructor
    · intro framed
      refine .inr (by_contra fun nonempty => ?_)
      have proper : head m ≠ serialize m := fun same => nonempty (List.self_eq_append_right.mp same)
      exact framed.2 (head m) (List.prefix_append _ _) proper headFramed.1
    · intro empty
      have whole : serialize m = head m := by rw [serialize, empty.resolve_left bodied, List.append_nil]
      rwa [whole]

/-! ### Requests and responses -/

omit [StartLine S] m start in
theorem readable_request {r : Request} (headers : r.headers.WireSafe) (line : r.start.WireSafe)
    (fits : (head r).length ≤ headLimit) (length : r.body.length < lengthBound) : Readable r r.start where
  headers := headers
  text := by
    have nonempty := r.start.method.name_nonempty
    exact ⟨by simp [StartLine.toText, RequestLine.toText], line.oneLine⟩
  start := line.ofText_toText
  fits := fits
  length := length

/-- The start line of a response as it is read back: the status of its code, and the reason that is written. -/
def readLine (line : StatusLine) : StatusLine :=
  { line with status := .ofCode line.status.code, reason := line.writtenReason }

theorem readable_response {r : Response} (headers : r.headers.WireSafe) (line : r.start.WireSafe)
    (fits : (head r).length ≤ headLimit) (length : r.body.length < lengthBound) : Readable r (readLine r.start) where
  headers := headers
  text := ⟨by simp [StartLine.toText, StatusLine.toText], line.oneLine⟩
  start := line.ofText_toText
  fits := fits
  length := length

theorem mayHaveBody_readLine (line : StatusLine) :
    StartLine.mayHaveBody (readLine line) = !line.status.isBodiless :=
  congrArg Bool.not line.status.isBodiless_ofCode

/-- Reading undoes writing: a message is read back to its last octet, with its start line, its body, the fields
it had, and the length of its body in place of any that its headers gave. -/
theorem feed_serialize :
    (∀ r : Request, r.headers.WireSafe → r.start.WireSafe →
      (head r).length ≤ headLimit → r.body.length < lengthBound →
        Framed RequestLine false (serialize r) ∧
        ((Parser.fresh : Parser RequestLine).feed (serialize r)).2.awaiting = .done (some
          { start := r.start
            headers := ⟨ownFields r.headers ++ [⟨"Content-Length", decimal r.body.length⟩]⟩
            contentLength := some r.body.length
            body := r.body })) ∧
    ∀ r : Response, r.headers.WireSafe → r.start.WireSafe → (∃ code, r.start.status = .ofCode code) →
      (r.start.status.isBodiless → r.body = []) →
      (head r).length ≤ headLimit → r.body.length < lengthBound →
        Framed StatusLine false (serialize r) ∧
        ((Parser.fresh : Parser StatusLine).feed (serialize r)).2.awaiting = .done (some
          { start := { r.start with reason := r.start.writtenReason }
            headers := ⟨ownFields r.headers ++ [⟨"Content-Length", decimal r.body.length⟩]⟩
            contentLength := some r.body.length
            body := r.body }) := by
  constructor
  · intro r headers line fits length
    have readable := readable_request headers line fits length
    exact ⟨readable.framed_serialize rfl, (readable.reads_serialize rfl).state⟩
  · intro r headers line named bodiless fits length
    have readable := readable_response headers line fits length
    have start : readLine r.start = { r.start with reason := r.start.writtenReason } := by
      obtain ⟨code, named⟩ := named
      have same : Status.ofCode r.start.status.code = r.start.status := by rw [named, Status.code_ofCode]
      rw [readLine, same]
    have framed : Framed StatusLine false (serialize r) := by
      refine readable.framed_serialize_iff.mpr ?_
      rw [mayHaveBody_readLine]
      cases excluded : r.start.status.isBodiless with
      | false => exact .inl rfl
      | true => exact .inr (bodiless excluded)
    refine ⟨framed, ?_⟩
    cases excluded : r.start.status.isBodiless with
    | false =>
      have reads := readable.reads_serialize (by rw [mayHaveBody_readLine, excluded]; rfl)
      rw [readBack, start] at reads
      exact reads.state
    | true =>
      have empty := bodiless excluded
      have unbodied : ¬ Bodied false (headBack r (readLine r.start)) := fun bodied => by
        have may : StartLine.mayHaveBody (readLine r.start) = true := bodied.2
        simp [mayHaveBody_readLine, excluded] at may
      have reads := readable.reads_head unbodied r.body
      rw [headBack, start, ← empty] at reads
      exact reads.state

/-- A request with a stale length among its headers, and a response without a reason. -/
theorem feed_serialize_stale_length :
    let request : Request :=
      ⟨⟨.post, "/a?b", "HTTP/1.1"⟩, ⟨[⟨"content-length", "99"⟩, ⟨"Host", "x"⟩]⟩, some 99, [104, 105]⟩
    let response : Response := ⟨⟨.notFound, "", "HTTP/1.0"⟩, ⟨[⟨"Date", "now"⟩]⟩, none, [63]⟩
    (Framed RequestLine false (serialize request) ∧
      ((Parser.fresh : Parser RequestLine).feed (serialize request)).2.awaiting = .done (some
        ⟨⟨.post, "/a?b", "HTTP/1.1"⟩, ⟨[⟨"Host", "x"⟩, ⟨"Content-Length", "2"⟩]⟩, some 2, [104, 105]⟩)) ∧
    Framed StatusLine false (serialize response) ∧
      ((Parser.fresh : Parser StatusLine).feed (serialize response)).2.awaiting = .done (some
        ⟨⟨.notFound, "Not Found", "HTTP/1.0"⟩, ⟨[⟨"Date", "now"⟩, ⟨"Content-Length", "1"⟩]⟩, some 1, [63]⟩) :=
  ⟨feed_serialize.1 ⟨⟨.post, "/a?b", "HTTP/1.1"⟩, ⟨[⟨"content-length", "99"⟩, ⟨"Host", "x"⟩]⟩, some 99, [104, 105]⟩
      (by decide +kernel) (by decide +kernel) (by decide +kernel) (by decide),
    feed_serialize.2 ⟨⟨.notFound, "", "HTTP/1.0"⟩, ⟨[⟨"Date", "now"⟩]⟩, none, [63]⟩ (by decide +kernel)
      (by decide +kernel) ⟨404, by decide⟩ (fun excluded => absurd excluded (by decide)) (by decide +kernel)
      (by decide)⟩

end Wire
end HttpExchange
