import HttpExchange.Proofs.Wire

/-!
What a header value does to a message on the wire. A value is written as it is, so each CR LF in it begins a further
line, which a reader takes for a line of the head. The message is read as it was written exactly if these lines do no
harm: none of them is blank, none declares another length, and none brings a name that the headers do not have.
-/
namespace HttpExchange.Wire
open Bytes (crlf ended Unbroken)
open HttpExchange.Parser (fieldOf? fieldsOf IsLength lengthOnce lengthBound headLimit HeadOf AtLine Reads Bodied)
open Text (OneLine trim Denotes)
variable {S : Type}

/-- A name of ASCII letters, digits and hyphens. -/
def IsToken (name : String) : Prop := name.toList ≠ [] ∧ ∀ c ∈ name.toList, c.isAlphanum ∨ c = '-'

/-- The lines on which a value goes on, behind the one with the name. -/
def continued (field : Field) : List Bytes := (Bytes.lines (Utf8.encode field.value)).tail

/-- The header lines of a message as a reader finds them. -/
def foundLines (m : Message S) : List Bytes := (headerLines m).flatMap Bytes.lines

/-- What is read of the head if all of its lines are read. -/
def foundHead (m : Message S) (start : S) : Message S :=
  ⟨start, .ofList (lengthOnce (fieldsOf (foundLines m))), some m.body.length, []⟩

/-- A further line does no harm: it is not blank, and if it is a field it declares the length of the body or has a
name that the headers have. -/
structure Harmless (m : Message S) (line : Bytes) : Prop where
  nonblank : line ≠ []
  length : ∀ field, fieldOf? line = some field → IsLength field → Denotes field.value m.body.length
  known : ∀ field, fieldOf? line = some field → ¬ IsLength field → m.headers.contains field.name

/-- A reader is done with the message at its last octet and has the body, its length and no name that was not
written. -/
structure Intact [StartLine S] (m : Message S) : Prop where
  framed : Framed S false (serialize m)
  read : ∃ read, ((Parser.fresh : Parser S).feed (serialize m)).2.awaiting = .done (some read) ∧
    read.body = m.body ∧ read.contentLength = some m.body.length ∧
      ∀ name, read.headers.contains name →
        m.headers.contains name ∨ Text.sameIgnoringCase name "Content-Length" = true

/-! ### The lines that are found -/

theorem IsToken.of_mem {name : String} (token : IsToken name) {c : Char} (member : c ∈ name.toList) :
    ¬ Text.isBlank c ∧ c ≠ ':' ∧ c ≠ '\r' := by
  have range : 48 ≤ c.toNat ∧ c.toNat ≤ 57 ∨ 65 ≤ c.toNat ∧ c.toNat ≤ 90 ∨ 97 ≤ c.toNat ∧ c.toNat ≤ 122 ∨
      c.toNat = 45 := by
    rcases token.2 c member with word | rfl
    · have bounds : 'A'.val.toNat = 65 ∧ 'Z'.val.toNat = 90 ∧ 'a'.val.toNat = 97 ∧ 'z'.val.toNat = 122 ∧
          '0'.val.toNat = 48 ∧ '9'.val.toNat = 57 := by decide
      simp only [Char.isAlphanum, Char.isAlpha, Char.isUpper, Char.isLower, Char.isDigit, Bool.or_eq_true,
        Bool.and_eq_true, decide_eq_true_eq, ge_iff_le, UInt32.le_iff_toNat_le] at word
      simp only [Char.toNat]
      omega
    · decide
  refine ⟨?_, ?_, ?_⟩
  · simp only [Text.isBlank, Bool.or_eq_true, Bool.and_eq_true, decide_eq_true_eq, beq_iff_eq]
    omega
  · rintro rfl
    revert range
    decide
  · rintro rfl
    revert range
    decide

theorem IsToken.blankless {name : String} (token : IsToken name) : Text.Blankless name :=
  fun _ member => (token.of_mem member).1

/-- A field with a name of letters is found as a line with its name and the lines on which its value goes on. -/
theorem lines_fieldText {field : Field} (token : IsToken field.name) :
    ∃ first, Bytes.lines (Utf8.encode (fieldText field)) = first :: continued field ∧ first ≠ [] ∧
      ∃ value, fieldOf? first = some ⟨field.name, value⟩ := by
  have text : fieldText field = field.name ++ ":" ++ " " ++ field.value := (String.append_assoc ..).symm
  have single : '\r' ∉ (field.name ++ ":" ++ " ").toList := by
    simp only [String.toList_append, List.mem_append, not_or]
    exact ⟨⟨fun member => (token.of_mem member).2.2 rfl, by decide⟩, by decide⟩
  obtain ⟨part, rest, parts⟩ := List.exists_cons_of_ne_nil (Bytes.lines_ne_nil (Utf8.encode field.value))
  have colon : ':' ∉ field.name.toList := fun member => (token.of_mem member).2.1 rfl
  refine ⟨Utf8.encode (field.name ++ ":" ++ " ") ++ part, ?_, ?_, trim (" " ++ Utf8.decodeLossy part), ?_⟩
  · rw [text, Utf8.encode_append, Bytes.lines_append (Utf8.not_mem_encode (by decide) single), continued, parts]
    rfl
  · intro empty
    exact encode_ne_nil (by simp) (List.append_eq_nil_iff.mp empty).1
  · rw [fieldOf?, Utf8.decodeLossy_encode_append, String.append_assoc, Text.cut?_append colon rfl, Option.map_some]
    simp only [Text.trim_of_blankless token.blankless]

theorem lines_lengthField (m : Message S) :
    Bytes.lines (Utf8.encode (fieldText (lengthField m))) = [Utf8.encode (fieldText (lengthField m))] :=
  Bytes.lines_of_unbroken (Utf8.unbroken_encode (oneLine_fieldText (wireSafe_lengthField m)))

theorem mem_foundLines {m : Message S} {line : Bytes} :
    line ∈ foundLines m ↔ (∃ own ∈ ownFields m.headers, line ∈ Bytes.lines (Utf8.encode (fieldText own))) ∨
      line = Utf8.encode (fieldText (lengthField m)) := by
  simp only [foundLines, headerLines, writtenFields, List.map_append, List.flatMap_append, List.mem_append,
    List.mem_flatMap, List.mem_map, exists_exists_and_eq_and, List.map_cons, List.map_nil, List.flatMap_cons,
    List.flatMap_nil, List.append_nil, lines_lengthField, List.mem_singleton]

/-- Every line that is found goes on with a value, or has the name of a field that the headers have, or declares the
length of the body. -/
theorem foundLines_cases {m : Message S} (names : ∀ field ∈ m.headers.fields, IsToken field.name) {line : Bytes}
    (member : line ∈ foundLines m) :
    (∃ own ∈ ownFields m.headers, line ∈ continued own) ∨
      line ≠ [] ∧ ((∃ own ∈ ownFields m.headers, ∃ value, fieldOf? line = some ⟨own.name, value⟩) ∨
        fieldOf? line = some (lengthField m)) := by
  rcases mem_foundLines.mp member with ⟨own, written, inside⟩ | rfl
  · obtain ⟨first, lines, nonblank, value, found⟩ := lines_fieldText (names own (mem_ownFields.mp written).1)
    rw [lines] at inside
    rcases List.mem_cons.mp inside with rfl | further
    · exact .inr ⟨nonblank, .inl ⟨own, written, value, found⟩⟩
    · exact .inl ⟨own, written, further⟩
  · exact .inr ⟨encode_ne_nil (by simp [fieldText]), .inr (fieldOf?_fieldText (wireSafe_lengthField m))⟩

theorem mem_foundLines_of_continued {m : Message S} (names : ∀ field ∈ m.headers.fields, IsToken field.name)
    {own : Field} (written : own ∈ ownFields m.headers) {line : Bytes} (further : line ∈ continued own) :
    line ∈ foundLines m := by
  obtain ⟨first, lines, -⟩ := lines_fieldText (names own (mem_ownFields.mp written).1)
  refine mem_foundLines.mpr (.inl ⟨own, written, ?_⟩)
  rw [lines]
  exact List.mem_cons_of_mem _ further

/-- A name that is read is one that the headers have, or the length. -/
theorem known_of_foundLines {m : Message S} (names : ∀ field ∈ m.headers.fields, IsToken field.name)
    (harmless : ∀ own ∈ ownFields m.headers, ∀ line ∈ continued own, Harmless m line) {field : Field}
    (found : field ∈ fieldsOf (foundLines m)) : m.headers.contains field.name ∨ IsLength field := by
  obtain ⟨line, inside, found⟩ := List.mem_filterMap.mp found
  rcases foundLines_cases names inside with ⟨own, written, further⟩ | ⟨-, ⟨own, written, value, same⟩ | same⟩
  · by_cases isLength : IsLength field
    · exact .inr isLength
    · exact .inl ((harmless own written line further).known field found isLength)
  · obtain rfl := Option.some.inj (same.symm.trans found)
    exact .inl (List.any_eq_true.mpr ⟨own, (mem_ownFields.mp written).1, Headers.named_self own⟩)
  · obtain rfl := Option.some.inj (same.symm.trans found)
    exact .inr (isLength_lengthField m)

variable [StartLine S] {m : Message S} {start : S}

/-- A head is the lines that are found in it. -/
theorem head_eq_foundLines (m : Message S) :
    head m = ended (Utf8.encode (StartLine.toText m.start) :: foundLines m ++ [[]]) := by
  rw [head_eq, headLines, List.cons_append, List.cons_append, Bytes.ended_cons, Bytes.ended_cons, Bytes.ended_append,
    Bytes.ended_append, foundLines, Bytes.ended_flatMap_lines]

theorem unbroken_foundLines (text : OneLine (StartLine.toText m.start)) :
    ∀ line ∈ Utf8.encode (StartLine.toText m.start) :: foundLines m, Unbroken line := by
  intro line member
  rcases List.mem_cons.mp member with rfl | found
  · exact Utf8.unbroken_encode text
  · obtain ⟨whole, -, inside⟩ := List.mem_flatMap.mp found
    exact Bytes.unbroken_of_mem_lines inside

/-! ### What the reader makes of them -/

section
variable (names : ∀ field ∈ m.headers.fields, IsToken field.name)
  (text : (StartLine.toText m.start).toList ≠ [] ∧ OneLine (StartLine.toText m.start))
  (starts : StartLine.ofText (StartLine.toText m.start) = .ok start) (fits : (head m).length ≤ headLimit)
  (length : m.body.length < lengthBound)
include names text starts fits length

/-- If no further line does harm, the lines are the head of a message with the length that was written. -/
theorem isHead_foundLines (harmless : ∀ own ∈ ownFields m.headers, ∀ line ∈ continued own, Harmless m line) :
    IsHead (Utf8.encode (StartLine.toText m.start)) (foundLines m) (foundHead m start) where
  unbroken := unbroken_foundLines text.2
  fits := by rwa [head_eq_foundLines] at fits
  headOf :=
    { nonblank := by
        refine ⟨encode_ne_nil text.1, fun line member => ?_⟩
        rcases foundLines_cases names member with ⟨own, written, further⟩ | ⟨nonblank, -⟩
        · exact (harmless own written line further).nonblank
        · exact nonblank
      start := ⟨_, rfl, starts⟩
      declared := by
        refine ⟨length, ⟨lengthField m, ?_, isLength_lengthField m⟩, fun field member isLength => ?_⟩
        · exact List.mem_filterMap.mpr
            ⟨_, mem_foundLines.mpr (.inr rfl), fieldOf?_fieldText (wireSafe_lengthField m)⟩
        · obtain ⟨line, inside, found⟩ := List.mem_filterMap.mp member
          rcases foundLines_cases names inside with
            ⟨own, written, further⟩ | ⟨-, ⟨own, written, value, same⟩ | same⟩
          · exact (harmless own written line further).length field found isLength
          · obtain rfl := Option.some.inj (same.symm.trans found)
            exact absurd isLength (mem_ownFields.mp written).2
          · obtain rfl := Option.some.inj (same.symm.trans found)
            exact Text.denotes_decimal _
      headers := rfl
      body := rfl }

theorem intact_of_harmless (bodied : StartLine.mayHaveBody start = true)
    (harmless : ∀ own ∈ ownFields m.headers, ∀ line ∈ continued own, Harmless m line) : Intact m := by
  have isHead := isHead_foundLines names text starts fits length harmless
  have whole : serialize m = ended (Utf8.encode (StartLine.toText m.start) :: foundLines m ++ [[]]) ++ m.body := by
    rw [serialize, head_eq_foundLines]
  have reads : Reads false (serialize m) (.ok .complete) (.done (some { foundHead m start with body := m.body })) := by
    rw [whole]
    exact isHead.reads_body bodied rfl
  constructor
  · rw [whole]
    exact isHead.framed_body bodied rfl
  · refine ⟨_, reads.state, rfl, rfl, fun name known => ?_⟩
    obtain ⟨field, member, same⟩ := Headers.contains_ofList_iff.mp known
    rcases known_of_foundLines names harmless (Parser.mem_of_mem_lengthOnce member) with there | isLength
    · rw [Headers.contains_congr same] at there
      exact .inl there
    · exact .inr ((Text.sameIgnoringCase_trans same).symm.trans isLength)

end

/-- Nothing is left over behind the body of a message that is framed. -/
theorem surplus_eq_nil {input body surplus : Bytes} {before : List Bytes} {read : Message S}
    (place : AtLine input before [] (body ++ surplus) (.headers read)) (bodied : Bodied false read)
    (declared : read.contentLength = some body.length) (framed : Framed S false input) : surplus = [] := by
  by_contra nonempty
  have parts : input = ended before ++ ([] ++ crlf ++ body) ++ surplus := by
    rw [place.parts]
    simp only [List.append_assoc]
  have early : AtLine (ended before ++ ([] ++ crlf ++ body)) before [] (body ++ []) (.headers read) :=
    ⟨⟨by rw [List.append_nil], place.unbroken, place.within, place.awaits⟩, place.unbrokenLine, place.fits⟩
  refine framed.2 _ ⟨surplus, parts.symm⟩ (fun same => ?_) (Reads.whole early bodied declared).result
  rw [parts] at same
  exact nonempty (List.self_eq_append_right.mp same)

omit [StartLine S] m start in
/-- Lines and a blank one behind them, cut at the first blank one. -/
theorem exists_first_blank (lines : List Bytes) :
    ∃ before behind, lines ++ [[]] = before ++ [] :: behind ∧ ∀ line ∈ before, line ≠ [] := by
  induction lines with
  | nil => exact ⟨[], [], rfl, by simp⟩
  | cons line lines ih =>
    by_cases blank : line = []
    · exact ⟨[], lines ++ [[]], by rw [blank]; rfl, by simp⟩
    · obtain ⟨before, behind, parts, nonblank⟩ := ih
      refine ⟨line :: before, behind, by rw [List.cons_append, parts]; rfl, ?_⟩
      exact List.forall_mem_cons.mpr ⟨blank, nonblank⟩

/-- A message that arrives intact was read with all of its lines as the head. -/
theorem Intact.headOf (intact : Intact m)
    (text : (StartLine.toText m.start).toList ≠ [] ∧ OneLine (StartLine.toText m.start))
    (starts : StartLine.ofText (StartLine.toText m.start) = .ok start) (bodied : StartLine.mayHaveBody start = true) :
    ∃ read : Message S, HeadOf (Utf8.encode (StartLine.toText m.start)) (foundLines m) read ∧
      read.contentLength = some m.body.length ∧ ∀ name, read.headers.contains name →
        m.headers.contains name ∨ Text.sameIgnoringCase name "Content-Length" = true := by
  obtain ⟨before, behind, cut, nonblank⟩ := exists_first_blank (foundLines m)
  obtain ⟨read, state, body, declared, names⟩ := intact.read
  have complete : ((Parser.freshIgnoring false : Parser S).feed (serialize m)).1 = .ok .complete := intact.framed.1
  have reads : Reads false (serialize m) _ _ := Parser.reads_feed (S := S) false (serialize m)
  simp only [Parser.outcome, complete] at reads
  rw [show ((Parser.freshIgnoring false : Parser S).feed (serialize m)).2.awaiting = _ from state] at reads
  have whole : serialize m ++ [] =
      ended (Utf8.encode (StartLine.toText m.start) :: before ++ [[]]) ++ (ended behind ++ m.body) := by
    have lines : Utf8.encode (StartLine.toText m.start) :: foundLines m ++ [[]] =
        (Utf8.encode (StartLine.toText m.start) :: before ++ [[]]) ++ behind := by simp [cut]
    rw [List.append_nil, serialize, head_eq_foundLines, lines, Bytes.ended_append _ behind, List.append_assoc]
  have nonblankLines : ∀ line ∈ Utf8.encode (StartLine.toText m.start) :: before, line ≠ [] :=
    List.forall_mem_cons.mpr ⟨encode_ne_nil text.1, nonblank⟩
  have unbroken : ∀ line ∈ Utf8.encode (StartLine.toText m.start) :: before, Unbroken line := by
    refine List.forall_mem_cons.mpr ⟨Utf8.unbroken_encode text.2, fun line member => ?_⟩
    have inside : line ∈ foundLines m ++ [[]] := by rw [cut]; exact List.mem_append_left _ member
    rcases List.mem_append.mp inside with found | blank
    · exact unbroken_foundLines text.2 line (List.mem_cons_of_mem _ found)
    · exact absurd (List.mem_singleton.mp blank) (nonblank line member)
  cases reads with
  | headOnly place bodiless =>
    obtain ⟨head, -⟩ := place.same_head nonblankLines unbroken whole
    have starts' := Parser.startLine_ok_iff.mpr ⟨_, rfl, starts⟩
    rw [Parser.startLine_ok_iff.mpr head.start, Except.ok.injEq] at starts'
    exact absurd ⟨rfl, by rw [Message.mayHaveBody, starts']; exact bodied⟩ bodiless
  | whole place bodiedHere known =>
    obtain ⟨head, -, rest⟩ := place.same_head nonblankLines unbroken whole
    obtain rfl := surplus_eq_nil place bodiedHere known intact.framed
    simp only at body
    rw [List.append_nil, List.append_nil, body] at rest
    have empty : ended behind = [] := List.self_eq_append_left.mp rest
    have none : behind = [] := by
      cases behind with
      | nil => rfl
      | cons line lines =>
        rw [Bytes.ended_cons] at empty
        simp [crlf] at empty
    rw [none] at cut
    rw [← List.append_cancel_right cut] at head
    exact ⟨_, head, declared, names⟩

theorem harmless_of_intact (intact : Intact m) (names : ∀ field ∈ m.headers.fields, IsToken field.name)
    (text : (StartLine.toText m.start).toList ≠ [] ∧ OneLine (StartLine.toText m.start))
    (starts : StartLine.ofText (StartLine.toText m.start) = .ok start) (bodied : StartLine.mayHaveBody start = true)
    {own : Field} (written : own ∈ ownFields m.headers) {line : Bytes} (further : line ∈ continued own) :
    Harmless m line := by
  obtain ⟨read, head, known, there⟩ := intact.headOf text starts bodied
  have inside := mem_foundLines_of_continued names written further
  have declared := head.declared
  rw [known] at declared
  constructor
  · exact head.nonblank.2 line inside
  · intro field found isLength
    exact declared.2.2 field (List.mem_filterMap.mpr ⟨line, inside, found⟩) isLength
  · intro field found other
    have kept : field ∈ lengthOnce (fieldsOf (foundLines m)) :=
      Parser.mem_lengthOnce other (List.mem_filterMap.mpr ⟨line, inside, found⟩)
    have taken : read.headers.contains field.name := by
      rw [head.headers]
      exact Headers.contains_ofList_iff.mpr ⟨field, kept, Headers.named_self field⟩
    exact (there field.name taken).resolve_right other

/-! ### Responses -/

/-- A response whose names are words arrives as it was written exactly if no line on which a value goes on is blank,
declares another length or brings another name. -/
theorem intact_iff_harmless (r : Response) (names : ∀ field ∈ r.headers.fields, IsToken field.name)
    (line : r.start.WireSafe) (bodied : r.start.status.isBodiless = false) (fits : (head r).length ≤ headLimit)
    (length : r.body.length < lengthBound) :
    Intact r ↔ ∀ own ∈ ownFields r.headers, ∀ line ∈ continued own, Harmless r line := by
  have text : (StartLine.toText r.start).toList ≠ [] ∧ OneLine (StartLine.toText r.start) :=
    ⟨by simp [StartLine.toText, StatusLine.toText], line.oneLine⟩
  have starts : StartLine.ofText (StartLine.toText r.start) = .ok (readLine r.start) := line.ofText_toText
  have may : StartLine.mayHaveBody (readLine r.start) = true := by rw [mayHaveBody_readLine, bodied]; rfl
  constructor
  · intro intact own written line further
    exact harmless_of_intact intact names text starts may written further
  · exact intact_of_harmless names text starts fits length may

/-- A value that goes on behind a space, as it was folded in old messages, arrives with its message. -/
theorem intact_iff_harmless_folded :
    Intact (⟨⟨.ok, "OK", "HTTP/1.1"⟩, ⟨[⟨"X-Note", "one\r\n two"⟩, ⟨"Date", "now"⟩]⟩, none, [104, 105]⟩ : Response) := by
  refine (intact_iff_harmless _ (by simp [IsToken]) (by decide +kernel) (by decide) (by decide +kernel)
    (by decide)).mpr fun own written line further => ?_
  have lines : (ownFields ⟨[⟨"X-Note", "one\r\n two"⟩, ⟨"Date", "now"⟩]⟩).flatMap continued = [Utf8.encode " two"] := by
    decide +kernel
  have member := List.mem_flatMap.mpr ⟨own, written, further⟩
  rw [lines] at member
  obtain rfl := List.mem_singleton.mp member
  have none : fieldOf? (Utf8.encode " two") = none := by decide +kernel
  exact ⟨by decide +kernel, fun field found => by simp [none] at found, fun field found => by simp [none] at found⟩

/-- A value that ends the head before the length is written, and one that brings a cookie: every part of the response
is in place, and it does not arrive as it was written. -/
theorem not_intact_split :
    let cut : Response := ⟨⟨.ok, "OK", "HTTP/1.1"⟩, ⟨[⟨"X", "a\r\n\r\n"⟩]⟩, none, [104, 105]⟩
    let added : Response := ⟨⟨.ok, "OK", "HTTP/1.1"⟩, ⟨[⟨"X", "a\r\nSet-Cookie: b"⟩]⟩, none, [104, 105]⟩
    (((∀ field ∈ cut.headers.fields, IsToken field.name) ∧ cut.start.WireSafe ∧
      cut.start.status.isBodiless = false ∧ (head cut).length ≤ headLimit) ∧ ¬ Intact cut) ∧
    ((∀ field ∈ added.headers.fields, IsToken field.name) ∧ added.start.WireSafe ∧
      added.start.status.isBodiless = false ∧ (head added).length ≤ headLimit) ∧ ¬ Intact added := by
  intro cut added
  have names : IsToken "X" := by simp [IsToken]
  refine ⟨⟨⟨by simp [cut, names], by decide +kernel, by decide, by decide +kernel⟩, fun intact => ?_⟩,
    ⟨by simp [added, names], by decide +kernel, by decide, by decide +kernel⟩, fun intact => ?_⟩
  · have refused : ((Parser.freshIgnoring false : Parser StatusLine).feed (serialize cut)).1 =
        .error (.contentLength .missing) := by decide +kernel
    have complete := intact.framed.1
    rw [refused] at complete
    cases complete
  · have found : ((Parser.fresh : Parser StatusLine).feed (serialize added)).2.awaiting = .done (some
        ⟨⟨.ok, "OK", "HTTP/1.1"⟩, ⟨[⟨"X", "a"⟩, ⟨"Set-Cookie", "b"⟩, ⟨"Content-Length", "2"⟩]⟩, some 2, [104, 105]⟩) := by
      decide +kernel
    obtain ⟨read, state, -, -, names⟩ := intact.read
    rw [found] at state
    cases state
    rcases names "Set-Cookie" (by decide +kernel) with known | known
    · exact absurd known (by decide +kernel)
    · exact absurd known (by decide +kernel)

end HttpExchange.Wire
