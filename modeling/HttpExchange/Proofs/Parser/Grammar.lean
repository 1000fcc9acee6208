import HttpExchange.Proofs.Parser.Head
import HttpExchange.Proofs.Parser.Pieces

/-!
The grammar of messages, and that a reader accepts exactly it. The grammar cuts an input into complete lines
and a rest and says what follows where they end; it knows neither pending octets nor resumed searches. Each of
its rules is what one reading comes to, and every reading comes to one of them.
-/
namespace HttpExchange.Parser
variable {S : Type} [StartLine S]
open Bytes (crlf ended Unbroken)

/-- An input up to some place: complete lines within the limit, what a reader waits for behind them, and the
rest. -/
structure Position (input : Bytes) (before : List Bytes) (rest : Bytes) (state : Awaiting S) : Prop where
  parts : input = ended before ++ rest
  unbroken : ∀ line ∈ before, Unbroken line
  within : (ended before).length ≤ headLimit
  awaits : Awaits before state

/-- A place in an input at which a line begins that ends within the limit. -/
structure AtLine (input : Bytes) (before : List Bytes) (line rest : Bytes) (state : Awaiting S) : Prop
    extends Position input before (line ++ crlf ++ rest) state where
  unbrokenLine : Unbroken line
  fits : (ended before).length + (line.length + 2) ≤ headLimit

/-- Why a start line is refused. -/
inductive StartRefused (S : Type) [StartLine S] (line : Bytes) : StartLineFault → Prop
  | notText (none : ∀ text, line ≠ Utf8.encode text) : StartRefused S line .notText
  | refused {text : String} {fault : StartLineFault} (same : line = Utf8.encode text)
      (refused : StartLine.ofText (S := S) text = .error fault) : StartRefused S line fault

/-- What reading an input comes to. -/
inductive Reads (ignore : Bool) (input : Bytes) : Except ParseError Progress → Awaiting S → Prop
  /-- The head is open, no further line is complete. -/
  | waiting {before : List Bytes} {rest : Bytes} {state : Awaiting S} (place : Position input before rest state)
      (unfinished : Unbroken rest) (fits : input.length ≤ headLimit) : Reads ignore input (.ok .needMore) state
  /-- The head is open and longer than the limit. -/
  | openTooLarge {before : List Bytes} {rest : Bytes} {state : Awaiting S} (place : Position input before rest state)
      (unfinished : Unbroken rest) (long : headLimit < input.length) :
      Reads ignore input (.error (.headTooLarge headLimit)) state
  /-- A line ends behind the limit. -/
  | lineTooLarge {before : List Bytes} {line rest : Bytes} {state : Awaiting S}
      (place : Position input before (line ++ crlf ++ rest) state) (unbroken : Unbroken line)
      (long : headLimit < (ended before).length + (line.length + 2)) :
      Reads ignore input (.error (.headTooLarge headLimit)) state
  /-- The start line is refused. -/
  | startRefused {before : List Bytes} {line rest : Bytes} {fault : StartLineFault}
      (place : AtLine input before line rest (.startLine : Awaiting S)) (nonblank : line ≠ [])
      (refused : StartRefused S line fault) : Reads ignore input (.error (.startLine fault)) .startLine
  /-- A header line declares a length that is refused. -/
  | lengthRefused {before : List Bytes} {line rest : Bytes} {m : Message S} {field : Field} {fault : LengthFault}
      (place : AtLine input before line rest (.headers m)) (nonblank : line ≠ []) (found : fieldOf? line = some field)
      (isLength : IsLength field) (refused : LengthRefused m.contentLength field.value fault) :
      Reads ignore input (.error (.contentLength fault)) (.headers m)
  /-- The head ends without the length of a body that has to follow. -/
  | lengthMissing {before : List Bytes} {rest : Bytes} {m : Message S}
      (place : AtLine input before [] rest (.headers m)) (bodied : Bodied ignore m) (missing : m.contentLength = none) :
      Reads ignore input (.error (.contentLength .missing)) (.headers m)
  /-- The message ends with its head. -/
  | headOnly {before : List Bytes} {rest : Bytes} {m : Message S} (place : AtLine input before [] rest (.headers m))
      (bodiless : ¬ Bodied ignore m) : Reads ignore input (.ok .complete) (.done (some m))
  /-- The body is there, and perhaps more, which is dropped. -/
  | whole {before : List Bytes} {body surplus : Bytes} {m : Message S}
      (place : AtLine input before [] (body ++ surplus) (.headers m)) (bodied : Bodied ignore m)
      (declared : m.contentLength = some body.length) :
      Reads ignore input (.ok .complete) (.done (some { m with body }))
  /-- A part of the body is there. -/
  | part {before : List Bytes} {body : Bytes} {m : Message S} {length : Nat}
      (place : AtLine input before [] body (.headers m)) (bodied : Bodied ignore m)
      (declared : m.contentLength = some length) (short : body.length < length) :
      Reads ignore input (.ok .needMore) (.body { m with body })

/-! ### Places -/

/-- A line that is read without ending the head brings the reader to the next place. -/
theorem AtLine.next {input line rest : Bytes} {before : List Bytes} {state next : Awaiting S}
    (place : AtLine input before line rest state) {ignore : Bool} (read : interpret ignore line state = .ok next)
    (inHead : next.InHead) : Position input (before ++ [line]) rest next where
  parts := by rw [place.parts, Bytes.ended_append, Bytes.ended_singleton]; simp only [List.append_assoc]
  unbroken other member := by
    rcases List.mem_append.mp member with member | member
    · exact place.unbroken other member
    · rw [List.mem_singleton.mp member]; exact place.unbrokenLine
  within := by
    have fits := place.fits
    rw [Bytes.ended_append, Bytes.ended_singleton, List.length_append, List.length_append]
    simpa [crlf] using fits
  awaits := place.awaits.append read inHead

/-- Every place behind a line comes from reading that line. -/
theorem Position.last {input line rest : Bytes} {before : List Bytes} {state : Awaiting S}
    (place : Position input (before ++ [line]) rest state) :
    ∃ earlier : Awaiting S, AtLine input before line rest earlier ∧
      ∀ ignore, interpret ignore line earlier = .ok state := by
  obtain ⟨earlier, awaits, read⟩ := place.awaits.last
  have parts := place.parts
  have within := place.within
  rw [Bytes.ended_append, Bytes.ended_singleton] at parts within
  simp only [List.length_append, show crlf.length = 2 from rfl] at within
  exact ⟨earlier, ⟨⟨by rw [parts, List.append_assoc], fun other member => place.unbroken other (by simp [member]),
    by omega, awaits⟩, place.unbroken line (by simp), by omega⟩, read⟩

/-- A fresh reader that comes to a line within the limit reads it. -/
theorem advance_atLine {input line rest : Bytes} {before : List Bytes} {state : Awaiting S}
    (place : AtLine input before line rest state) (ignore : Bool) :
    outcome (⟨state, line ++ crlf ++ rest, 0, (ended before).length, ignore⟩ : Parser S).advance =
      match interpret ignore line state with
      | .error e => (.error e, state)
      | .ok next => outcome (⟨next, rest, 0, (ended (before ++ [line])).length, ignore⟩ : Parser S).advance := by
  have length : (ended (before ++ [line])).length = (ended before).length + (line.length + 2) := by
    rw [Bytes.ended_append, Bytes.ended_singleton, List.length_append, List.length_append]
    rfl
  rw [Searched.advance_ahead (.of_scanned_zero rfl) place.awaits.inHead place.unbrokenLine rfl place.fits, length]
  cases interpret ignore line state <;> rfl

/-- A fresh reader comes to every place of its input. -/
theorem outcome_feed_position {input rest : Bytes} {before : List Bytes} {state : Awaiting S}
    (place : Position input before rest state) (ignore : Bool) :
    outcome ((freshIgnoring ignore : Parser S).feed input) =
      outcome (⟨state, rest, 0, (ended before).length, ignore⟩ : Parser S).advance := by
  induction before using List.reverseRecOn generalizing rest state with
  | nil =>
    obtain rfl : input = rest := place.parts
    obtain rfl := place.awaits.of_nil
    exact congrArg outcome (feed_of_head (p := freshIgnoring ignore) trivial input)
  | append_singleton before line ih =>
    obtain ⟨earlier, atLine, read⟩ := place.last
    rw [ih atLine.toPosition, advance_atLine atLine, read ignore]

/-! ### The line that ends a head, and lines that are refused -/

theorem startLine_error_iff {line : Bytes} {fault : StartLineFault} :
    startLine (S := S) line = .error fault ↔ StartRefused S line fault := by
  unfold startLine
  cases read : Utf8.decode? line with
  | none =>
    have none := Utf8.decode?_eq_none_iff.mp read
    constructor
    · intro same
      cases same
      exact .notText none
    · rintro (_ | ⟨same, _⟩)
      · rfl
      · exact absurd same (none _)
  | some text =>
    have same := Utf8.decode?_eq_some_iff.mp read
    constructor
    · exact .refused same
    · rintro (none | ⟨again, refused⟩)
      · exact absurd same (none text)
      · rw [again, Utf8.decode?_encode, Option.some.injEq] at read
        rwa [← read]

/-- A body begins empty and takes in what follows the head. -/
theorem outcome_advance_empty_body {m : Message S} (empty : m.body = []) {length : Nat}
    (declared : m.contentLength = some length) (rest : Bytes) (headLength : Nat) (ignore : Bool) :
    outcome (⟨.body m, rest, 0, headLength, ignore⟩ : Parser S).advance =
      if length ≤ rest.length then (.ok .complete, .done (some { m with body := rest.take length }))
      else (.ok .needMore, .body { m with body := rest }) := by
  have filled : m.filled rest = { m with body := rest.take length } := by simp [Message.filled, empty, declared]
  rw [outcome_advance_body rfl, filled]
  simp only [Message.isComplete, declared, List.length_take, Nat.le_min, Nat.le_refl, true_and, decide_eq_true_eq]
  by_cases full : length ≤ rest.length
  · rw [if_pos full, if_pos full]
  · rw [if_neg full, if_neg full, List.take_of_length_le (by omega)]

/-- A line that is refused ends the reading where the grammar says so. -/
theorem AtLine.reads_error {input line rest : Bytes} {before : List Bytes} {state : Awaiting S}
    (place : AtLine input before line rest state) {ignore : Bool} {e : ParseError}
    (refused : interpret ignore line state = .error e) : Reads ignore input (.error e) state := by
  rcases interpret_error place.awaits.inHead refused with ⟨nonblank, rfl, fault, because, rfl⟩ |
      ⟨nonblank, m, fault, rfl, because, rfl⟩ | ⟨rfl, m, fault, rfl, ended, rfl⟩
  · exact .startRefused place nonblank (startLine_error_iff.mp because)
  · obtain ⟨field, found, isLength, because⟩ := headerLine_error_iff.mp because
    exact .lengthRefused place nonblank found isLength because
  · by_cases bodied : Bodied ignore m
    · rw [endHead_of_bodied bodied] at ended
      cases declared : m.contentLength with
      | none =>
        simp only [declared, Except.error.injEq] at ended
        subst ended
        exact .lengthMissing place bodied declared
      | some length => simp [declared] at ended
    · simp [endHead_of_not_bodied bodied] at ended

theorem Awaits.body {before : List Bytes} {m : Message S} (awaits : Awaits before (.headers m)) : m.body = [] := by
  cases awaits with
  | headers all head => exact head.body

/-- What follows the end of a head is read as the grammar says. -/
theorem AtLine.reads_body {input line rest : Bytes} {before : List Bytes} {state next : Awaiting S}
    (place : AtLine input before line rest state) {ignore : Bool} (read : interpret ignore line state = .ok next)
    (behindHead : ¬ next.InHead) (headLength : Nat) :
    let result := outcome (⟨next, rest, 0, headLength, ignore⟩ : Parser S).advance
    Reads ignore input result.1 result.2 := by
  obtain ⟨-, -, rfl⟩ | ⟨-, -, start, -, rfl⟩ | ⟨-, m, changed, -, -, rfl⟩ | ⟨rfl, m, rfl, ended, -⟩ :=
    interpret_ok place.awaits.inHead read
  · exact absurd trivial behindHead
  · exact absurd trivial behindHead
  · exact absurd trivial behindHead
  by_cases bodied : Bodied ignore m
  · rw [endHead_of_bodied bodied] at ended
    cases declared : m.contentLength with
    | none => simp [declared] at ended
    | some length =>
      simp only [declared, Except.ok.injEq] at ended
      subst ended
      rw [outcome_advance_empty_body place.awaits.body declared]
      by_cases full : length ≤ rest.length
      · rw [if_pos full]
        have size : (rest.take length).length = length := by rw [List.length_take]; omega
        rw [← List.take_append_drop length rest] at place
        exact .whole place bodied (by rw [declared, size])
      · rw [if_neg full]
        exact .part place bodied declared (by omega)
  · rw [endHead_of_not_bodied bodied, Except.ok.injEq] at ended
    subst ended
    rw [advance_done rfl]
    exact .headOnly place bodied

/-! ### Acceptance -/

/-- Reading on from a place comes to what the grammar says. -/
theorem reads_advance {input : Bytes} {before : List Bytes} (p : Parser S) (searched : p.scanned = 0)
    (length : p.headLength = (ended before).length) (place : Position input before p.pending p.awaiting) :
    Reads p.ignoreBody input (outcome p.advance).1 (outcome p.advance).2 := by
  induction p using line_induction generalizing before with
  | later p behindHead => exact absurd place.awaits.inHead behindHead
  | unfinished p head none =>
    have total : input.length = p.headLength + p.pending.length := by rw [place.parts, List.length_append, length]
    have unfinished := none
    rw [searched, Bytes.lineEnd?_eq_none_iff_unbroken] at unfinished
    by_cases fits : p.headLength + p.pending.length ≤ headLimit
    · rw [advance_open head none fits]
      exact .waiting place unfinished (by omega)
    · rw [advance_open_tooLarge head none (by omega)]
      exact .openTooLarge place unfinished (by omega)
  | line p i head found ih =>
    have first := found
    rw [searched] at first
    obtain ⟨unbroken, parts⟩ := Bytes.line_of_lineEnd? first
    have inside := Bytes.lineEnd?_lt first
    have size : (p.pending.take i).length = i := by rw [List.length_take]; omega
    rw [parts] at place
    by_cases fits : p.headLength + (i + 2) ≤ headLimit
    · have atLine : AtLine input before (p.pending.take i) (p.pending.drop (i + 2)) p.awaiting :=
        ⟨place, unbroken, by rw [size]; omega⟩
      rw [advance_line head found fits]
      cases read : interpret p.ignoreBody (p.pending.take i) p.awaiting with
      | error e => exact atLine.reads_error read
      | ok next =>
        by_cases inHead : next.InHead
        · have place := atLine.next read inHead
          refine ih next rfl ?_ place
          rw [Bytes.ended_append, Bytes.ended_singleton, List.length_append, List.length_append, size, ← length]
          rfl
        · exact atLine.reads_body read inHead _
    · rw [advance_line_tooLarge head found (by omega)]
      exact .lineTooLarge place unbroken (by rw [size]; omega)

/-- A fresh reader goes past the line that ends a head. -/
theorem AtLine.outcome_feed_blank {input rest : Bytes} {before : List Bytes} {m : Message S}
    (place : AtLine input before [] rest (.headers m)) {ignore : Bool} {next : Awaiting S}
    (closes : endHead ignore m = .ok next) :
    outcome ((freshIgnoring ignore : Parser S).feed input) =
      outcome (⟨next, rest, 0, (ended (before ++ [[]])).length, ignore⟩ : Parser S).advance := by
  rw [outcome_feed_position place.toPosition, advance_atLine place, interpret_blank, closes]
  rfl

/-- What the grammar says a fresh reader comes to. -/
theorem Reads.outcome_feed {ignore : Bool} {input : Bytes} {result : Except ParseError Progress}
    {state : Awaiting S} (reads : Reads ignore input result state) :
    outcome ((freshIgnoring ignore : Parser S).feed input) = (result, state) := by
  cases reads with
  | @waiting before rest state place unfinished fits =>
    rw [place.parts, List.length_append] at fits
    rw [outcome_feed_position place,
      advance_open place.awaits.inHead (Bytes.lineEnd?_eq_none_iff_unbroken.mpr unfinished) fits]
    rfl
  | @openTooLarge before rest state place unfinished long =>
    rw [place.parts, List.length_append] at long
    rw [outcome_feed_position place,
      advance_open_tooLarge place.awaits.inHead (Bytes.lineEnd?_eq_none_iff_unbroken.mpr unfinished) long]
    rfl
  | lineTooLarge place unbroken long =>
    rw [outcome_feed_position place,
      advance_line_tooLarge place.awaits.inHead (Bytes.lineEnd?_line unbroken _) long]
    rfl
  | startRefused place nonblank refused =>
    rw [outcome_feed_position place.toPosition, advance_atLine place, interpret_startLine nonblank,
      startLine_error_iff.mpr refused]
  | @lengthRefused before line rest m field fault place nonblank found isLength refused =>
    rw [outcome_feed_position place.toPosition, advance_atLine place, interpret_headers nonblank,
      headerLine_error_iff.mpr ⟨field, found, isLength, refused⟩]
  | @lengthMissing before rest m place bodied missing =>
    have ended : endHead ignore m = .error .missing := by rw [endHead_of_bodied bodied, missing]
    rw [outcome_feed_position place.toPosition, advance_atLine place, interpret_blank, ended]
    rfl
  | headOnly place bodiless =>
    rw [place.outcome_feed_blank (endHead_of_not_bodied bodiless), advance_done rfl]
    rfl
  | @whole before body surplus m place bodied declared =>
    have ended : endHead ignore m = .ok (.body m) := by rw [endHead_of_bodied bodied, declared]
    rw [place.outcome_feed_blank ended, outcome_advance_empty_body place.awaits.body declared, if_pos (by simp),
      List.take_left]
  | @part before body m length place bodied declared short =>
    have ended : endHead ignore m = .ok (.body m) := by rw [endHead_of_bodied bodied, declared]
    rw [place.outcome_feed_blank ended, outcome_advance_empty_body place.awaits.body declared, if_neg (by omega)]

theorem Reads.result {ignore : Bool} {input : Bytes} {result : Except ParseError Progress} {state : Awaiting S}
    (reads : Reads ignore input result state) : ((freshIgnoring ignore : Parser S).feed input).1 = result :=
  (Prod.mk.inj reads.outcome_feed).1

theorem Reads.state {ignore : Bool} {input : Bytes} {result : Except ParseError Progress} {state : Awaiting S}
    (reads : Reads ignore input result state) : ((freshIgnoring ignore : Parser S).feed input).2.awaiting = state :=
  (Prod.mk.inj reads.outcome_feed).2

theorem reads_feed (ignore : Bool) (input : Bytes) :
    let read := outcome ((freshIgnoring ignore : Parser S).feed input)
    Reads ignore input read.1 read.2 := by
  have start : Position input [] input (.startLine : Awaiting S) :=
    ⟨rfl, by simp, Nat.zero_le _, .startLine (by simp)⟩
  rw [outcome_feed_position start]
  exact reads_advance (⟨.startLine, input, 0, 0, ignore⟩ : Parser S) rfl rfl start

/-- A fresh reader accepts exactly the grammar: what it makes of an input, errors included, is what the rules
say of that input, and they say one thing of every input. -/
theorem feed_eq_iff_reads (ignore : Bool) (input : Bytes) (result : Except ParseError Progress)
    (state : Awaiting S) :
    ((freshIgnoring ignore : Parser S).feed input).1 = result ∧
        ((freshIgnoring ignore : Parser S).feed input).2.awaiting = state ↔ Reads ignore input result state := by
  constructor
  · rintro ⟨rfl, rfl⟩
    exact reads_feed ignore input
  · intro reads
    exact ⟨reads.result, reads.state⟩

end HttpExchange.Parser
