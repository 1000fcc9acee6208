import HttpExchange.Proofs.Parser.Discipline
import HttpExchange.Proofs.Parser.Pieces

/-!
What an error leaves behind. A line that is refused is gone with its end, and nothing else is: the reader stands where
it stood before that line and goes on as if the line had not been there, but for its octets, which still count for the
limit of the head. A head that is too long stays so: nothing of the line that made it too long is taken, and whatever
is called on the reader, every piece that it is fed fails again until it is reset.
-/
namespace HttpExchange
variable {S : Type}

/-- A line is refused for what it says, not for its length. -/
def ParseError.refusesLine : ParseError → Bool
  | startLine _ => true
  | contentLength _ => true
  | headTooLarge _ => false

namespace Parser
open Bytes (crlf ended Unbroken lineEnds)

/-- The reader without the octets that are pending. -/
def emptied (p : Parser S) : Parser S := { p with pending := [], scanned := 0 }

/-- The reader with more octets counted for its head. -/
def counting (p : Parser S) (length : Nat) : Parser S := { p with headLength := p.headLength + length }

@[simp] theorem emptied_awaiting (p : Parser S) : p.emptied.awaiting = p.awaiting := rfl
@[simp] theorem emptied_pending (p : Parser S) : p.emptied.pending = [] := rfl
@[simp] theorem emptied_scanned (p : Parser S) : p.emptied.scanned = 0 := rfl
@[simp] theorem emptied_headLength (p : Parser S) : p.emptied.headLength = p.headLength := rfl
@[simp] theorem emptied_ignoreBody (p : Parser S) : p.emptied.ignoreBody = p.ignoreBody := rfl

theorem emptied_extended (p : Parser S) (more : Bytes) : (p.extended more).emptied = p.emptied := rfl

@[simp] theorem counting_awaiting (p : Parser S) (length : Nat) : (p.counting length).awaiting = p.awaiting := rfl
@[simp] theorem counting_pending (p : Parser S) (length : Nat) : (p.counting length).pending = p.pending := rfl
@[simp] theorem counting_scanned (p : Parser S) (length : Nat) : (p.counting length).scanned = p.scanned := rfl
@[simp] theorem counting_headLength (p : Parser S) (length : Nat) :
    (p.counting length).headLength = p.headLength + length := rfl
@[simp] theorem counting_ignoreBody (p : Parser S) (length : Nat) :
    (p.counting length).ignoreBody = p.ignoreBody := rfl

variable [StartLine S]

/-- What lines in turn make of the message so far. -/
def interpretAll (ignore : Bool) (lines : List Bytes) (state : Awaiting S) : Except ParseError (Awaiting S) :=
  lines.foldlM (fun state line => interpret ignore line state) state

/-! ### The lines before the offending one -/

/-- A reader takes lines in turn, which brings it to another place. -/
inductive Passes : Parser S → List Bytes → Parser S → Prop
  | stay (p : Parser S) : Passes p [] p
  | line {p q : Parser S} {line rest : Bytes} {next : Awaiting S} {lines : List Bytes} (head : p.awaiting.InHead)
      (unbroken : Unbroken line) (parts : p.pending = line ++ crlf ++ rest)
      (fits : p.headLength + (line.length + 2) ≤ headLimit) (read : interpret p.ignoreBody line p.awaiting = .ok next)
      (onward : Passes ⟨next, rest, 0, p.headLength + (line.length + 2), p.ignoreBody⟩ lines q) :
      Passes p (line :: lines) q

namespace Passes
variable {p q : Parser S} {lines : List Bytes}

theorem inHead (passes : Passes p lines q) (head : q.awaiting.InHead) : p.awaiting.InHead := by
  cases passes with
  | stay => exact head
  | line here => exact here

/-- The lines are the first ones of what was pending. -/
theorem parts (passes : Passes p lines q) : p.pending = ended lines ++ q.pending := by
  induction passes with
  | stay p => rfl
  | line head unbroken parts fits read onward ih =>
    rw [parts, Bytes.ended_cons, List.append_assoc _ (ended _), ← ih]

theorem unbroken (passes : Passes p lines q) : ∀ line ∈ lines, Unbroken line := by
  induction passes with
  | stay p => simp
  | line head unbroken parts fits read onward ih =>
    intro other member
    rcases List.mem_cons.mp member with rfl | later
    · exact unbroken
    · exact ih other later

theorem headLength (passes : Passes p lines q) : q.headLength = p.headLength + (ended lines).length := by
  induction passes with
  | stay p => rfl
  | line head unbroken parts fits read onward ih =>
    rw [ih, Bytes.ended_cons, List.length_append, List.length_append]
    exact Nat.add_assoc _ _ _

theorem interpretAll (passes : Passes p lines q) :
    Parser.interpretAll p.ignoreBody lines p.awaiting = .ok q.awaiting := by
  induction passes with
  | stay p => rfl
  | line head unbroken parts fits read onward ih =>
    rw [Parser.interpretAll, List.foldlM_cons, read]
    exact ih

/-- Fed the same lines and any octets behind them, a reader with nothing pending takes the lines and goes on with the
octets, also if more is counted for its head, as long as the lines fit. -/
theorem feed_ended (passes : Passes p lines q) (head : q.awaiting.InHead) (length : Nat)
    (fits : q.headLength + length ≤ headLimit) (rest : Bytes) :
    (p.emptied.counting length).feed (ended lines ++ rest) = (q.emptied.counting length).feed rest := by
  induction passes with
  | stay p => rfl
  | @line p q line behind next lines here unbroken parts within read onward ih =>
    have later := onward.headLength
    have room : (p.emptied.counting length).headLength + (line.length + 2) ≤ headLimit := by
      simp only [counting_headLength, emptied_headLength] at later ⊢
      omega
    have searched : ((p.emptied.counting length).extended (ended (line :: lines) ++ rest)).Searched :=
      .of_scanned_zero rfl
    have pending : ((p.emptied.counting length).extended (ended (line :: lines) ++ rest)).pending =
        line ++ crlf ++ (ended lines ++ rest) := by
      rw [Bytes.ended_cons, List.append_assoc (line ++ crlf)]
      rfl
    rw [feed_of_head (p := p.emptied.counting length) here, searched.advance_ahead here unbroken pending room]
    simp only [extended_ignoreBody, counting_ignoreBody, emptied_ignoreBody, extended_awaiting, counting_awaiting,
      emptied_awaiting, read]
    have total : p.headLength + length + (line.length + 2) = p.headLength + (line.length + 2) + length := by omega
    refine Eq.trans ?_ (ih head fits)
    refine Eq.trans ?_ (feed_of_head (by exact onward.inHead head) _).symm
    simp only [extended, emptied, counting, List.nil_append, total]

end Passes

/-! ### One error -/

/-- The head is too long already, whatever comes. -/
structure Exceeding (p : Parser S) : Prop where
  head : p.awaiting.InHead
  searched : p.Searched
  long : headLimit < p.headLength ∨ Unbroken p.pending ∧ headLimit < p.headLength + p.pending.length

/-- How reading fails at a line: it is refused and gone, or the head is too long with it and all of it is still
there. -/
inductive FailsAt (q : Parser S) : ParseError → Parser S → Prop
  | refused {line rest : Bytes} {e : ParseError} (unbroken : Unbroken line) (parts : q.pending = line ++ crlf ++ rest)
      (fits : q.headLength + (line.length + 2) ≤ headLimit)
      (refused : interpret q.ignoreBody line q.awaiting = .error e) :
      FailsAt q e ⟨q.awaiting, rest, 0, q.headLength + (line.length + 2), q.ignoreBody⟩
  | tooLarge {later : Parser S} (state : later.awaiting = q.awaiting) (pending : later.pending = q.pending)
      (long : headLimit < q.headLength + (q.pending.lineEnd? 0).elim q.pending.length (· + 2))
      (exceeding : later.Exceeding) : FailsAt q (.headTooLarge headLimit) later

/-- Reading fails at a line behind those that are taken. -/
theorem failsAt_of_advance {p later : Parser S} {e : ParseError} (searched : p.Searched)
    (failed : p.advance = (.error e, later)) :
    ∃ lines q, Passes p lines q ∧ q.awaiting.InHead ∧ FailsAt q e later := by
  induction p using line_induction with
  | later p behindHead =>
    obtain ⟨m, state⟩ | ⟨m, state⟩ := Awaiting.body_or_done behindHead
    · rw [advance_body state] at failed
      split_ifs at failed <;> cases failed
    · rw [advance_done state] at failed
      cases failed
  | unfinished p head none =>
    by_cases fits : p.headLength + p.pending.length ≤ headLimit
    · rw [advance_open head none fits] at failed
      cases failed
    · have long : headLimit < p.headLength + p.pending.length := by omega
      rw [advance_open_tooLarge head none long, Prod.mk.injEq, Except.error.injEq] at failed
      obtain ⟨rfl, rfl⟩ := failed
      rw [searched.lineEnd?] at none
      have unbroken : Unbroken p.pending := Bytes.lineEnd?_eq_none_iff_unbroken.mp none
      refine ⟨[], p, .stay p, head, .tooLarge rfl rfl ?_ ⟨head, searched, .inr ⟨unbroken, long⟩⟩⟩
      rw [none]
      exact long
  | line p i head found ih =>
    have inside := Bytes.lineEnd?_lt found
    have first := found
    rw [searched.lineEnd?] at first
    obtain ⟨unbroken, parts⟩ := Bytes.line_of_lineEnd? first
    have size : (p.pending.take i).length = i := by rw [List.length_take]; omega
    by_cases fits : p.headLength + (i + 2) ≤ headLimit
    · have room : p.headLength + ((p.pending.take i).length + 2) ≤ headLimit := by rwa [size]
      rw [searched.advance_ahead head unbroken parts room] at failed
      cases read : interpret p.ignoreBody (p.pending.take i) p.awaiting with
      | error refused =>
        rw [read] at failed
        cases failed
        exact ⟨[], p, .stay p, head, .refused unbroken parts room read⟩
      | ok next =>
        rw [read, size] at failed
        obtain ⟨lines, q, passes, inHead, fails⟩ := ih next (.of_scanned_zero rfl) failed
        refine ⟨p.pending.take i :: lines, q, .line head unbroken parts room read ?_, inHead, fails⟩
        rw [size]
        exact passes
    · have long : headLimit < p.headLength + (i + 2) := by omega
      rw [advance_line_tooLarge head found long] at failed
      cases failed
      refine ⟨[], p, .stay p, head, .tooLarge rfl rfl ?_ ⟨head, .of_scanned_zero rfl, .inl long⟩⟩
      rw [first]
      exact long

/-- Only a reader in the head fails. -/
theorem advance_of_feed_error {p later : Parser S} {data : Bytes} {e : ParseError}
    (failed : p.feed data = (.error e, later)) : (p.extended data).advance = (.error e, later) := by
  by_cases finished : ∃ m, p.awaiting = .done m
  · obtain ⟨m, state⟩ := finished
    rw [feed_of_done state] at failed
    cases failed
  · rwa [feed_of_not_done fun m state => finished ⟨m, state⟩] at failed

theorem feed_nil {p : Parser S} (head : p.awaiting.InHead) (fits : p.headLength ≤ headLimit) :
    p.emptied.feed [] = (.ok .needMore, p.emptied) := by
  rw [feed_of_head (p := p.emptied) head]
  exact advance_open (p := p.emptied.extended []) head rfl fits

/-- A line that is refused, and what it leaves behind. -/
structure Skips (p : Parser S) (data : Bytes) (before : List Bytes) (line rest : Bytes) (earlier : Parser S) :
    Prop where
  /-- The octets are lines that are taken, the line that is refused, and the rest. -/
  parts : p.pending ++ data = ended before ++ (line ++ crlf ++ rest)
  unbroken : (∀ other ∈ before, Unbroken other) ∧ Unbroken line
  /-- Without the line and the rest, the reader waits for more. -/
  waits : p.emptied.feed (ended before) = (.ok .needMore, earlier)
  /-- It is this line that is refused. -/
  refused : (earlier.feed (line ++ crlf)).1 = (p.feed data).1
  /-- The state and the message are what they were before the line. -/
  state : (p.feed data).2.awaiting = earlier.awaiting
  message : (p.feed data).2.message = earlier.message
  /-- The line is gone, and the rest is there. -/
  pending : (p.feed data).2.pending = rest
  /-- What is fed then is read as if the line had not been there but for its length. -/
  deleted : ∀ more,
    (p.feed data).2.feed more = (p.emptied.counting (line.length + 2)).feed (ended before ++ rest ++ more)

/-- A head that is too long, and what it leaves behind. -/
structure Sticks (p : Parser S) (data : Bytes) (before : List Bytes) (rest : Bytes) : Prop where
  /-- The octets are lines that are taken, and the rest, the first line of which makes the head too long. -/
  parts : p.pending ++ data = ended before ++ rest
  unbroken : ∀ line ∈ before, Unbroken line
  long : headLimit < p.headLength + (ended before).length + (rest.lineEnd? 0).elim rest.length (· + 2)
  /-- The state is what the lines before it make of it. -/
  state : interpretAll p.ignoreBody before p.awaiting = .ok (p.feed data).2.awaiting
  /-- Nothing of the rest is gone. -/
  pending : (p.feed data).2.pending = rest
  /-- Whatever is called on the reader, it stays in that state and fails again until it is reset. -/
  lasting : ∀ calls, .reset ∉ calls → ((p.feed data).2.calledAll calls).awaiting = (p.feed data).2.awaiting ∧
    ∀ more, (((p.feed data).2.calledAll calls).feed more).1 = .error (.headTooLarge headLimit)

theorem refusesLine_of_interpret {ignore : Bool} {line : Bytes} {state : Awaiting S} {e : ParseError}
    (head : state.InHead) (refused : interpret ignore line state = .error e) : e.refusesLine := by
  rcases interpret_error head refused with ⟨-, -, fault, -, rfl⟩ | ⟨-, m, fault, -, -, rfl⟩ | ⟨-, m, fault, -, -, rfl⟩
  · rfl
  · rfl
  · rfl

theorem skips_of_refused {p : Parser S} {data : Bytes} {e : ParseError} (searched : p.Searched)
    (failed : (p.feed data).1 = .error e) (refuses : e.refusesLine) :
    ∃ before line rest earlier, Skips p data before line rest earlier := by
  obtain ⟨later, fed⟩ : ∃ later, p.feed data = (.error e, later) := ⟨_, Prod.ext failed rfl⟩
  obtain ⟨before, q, passes, head, fails⟩ :=
    failsAt_of_advance (searched.extended data) (advance_of_feed_error fed)
  cases fails with
  | tooLarge => cases refuses
  | @refused line rest _ unbroken parts fits refused =>
    have within : q.headLength ≤ headLimit := by omega
    refine ⟨before, line, rest, q.emptied, ?_⟩
    constructor
    · have whole := passes.parts
      rwa [parts] at whole
    · exact ⟨passes.unbroken, unbroken⟩
    · have waits := passes.feed_ended head 0 within []
      rw [List.append_nil] at waits
      exact waits.trans (feed_nil head within)
    · have ahead : (q.emptied.extended (line ++ crlf)).pending = line ++ crlf ++ [] := by simp
      have searched : (q.emptied.extended (line ++ crlf)).Searched := .of_scanned_zero rfl
      rw [fed, feed_of_head (p := q.emptied) head, searched.advance_ahead head unbroken ahead fits]
      simp only [extended_ignoreBody, emptied_ignoreBody, extended_awaiting, emptied_awaiting, refused]
    · rw [fed]
      rfl
    · rw [fed]
      rfl
    · rw [fed]
    · intro more
      have again := passes.feed_ended head (line.length + 2) fits (rest ++ more)
      rw [emptied_extended] at again
      rw [fed, List.append_assoc, again, feed_of_head (p := q.emptied.counting _) head, feed_of_head (by exact head)]
      rfl

/-! ### All calls -/

theorem Searched.called {p : Parser S} (searched : p.Searched) (call : Call) : (p.called call).Searched := by
  cases call with
  | feed data => exact searched.feed data
  | ignore flag => exact ⟨searched.inside, searched.none, searched.behindHead⟩
  | take =>
    rw [Parser.called, Parser.take]
    split
    · rename_i m state
      exact .of_scanned_zero (searched.behindHead (by rw [state]; exact id))
    · exact searched
  | reset => exact .of_scanned_zero rfl

theorem Searched.calledAll {p : Parser S} (searched : p.Searched) (calls : List Call) :
    (p.calledAll calls).Searched := by
  induction calls generalizing p with
  | nil => exact searched
  | cons call rest ih => exact ih (searched.called call)

/-! ### A head that is too long -/

theorem Exceeding.feed {p : Parser S} (exceeding : p.Exceeding) (data : Bytes) :
    (p.feed data).1 = .error (.headTooLarge headLimit) ∧ (p.feed data).2.awaiting = p.awaiting ∧
      (p.feed data).2.Exceeding := by
  have head : (p.extended data).awaiting.InHead := exceeding.head
  have searched := exceeding.searched.extended data
  rw [feed_of_head exceeding.head]
  cases found : (p.extended data).pending.lineEnd? (p.extended data).scanned with
  | none =>
    have long : headLimit < (p.extended data).headLength + (p.extended data).pending.length := by
      have := exceeding.long
      simp only [extended_headLength, extended_pending, List.length_append]
      omega
    rw [advance_open_tooLarge head found long]
    rw [searched.lineEnd?, Bytes.lineEnd?_eq_none_iff_unbroken] at found
    exact ⟨rfl, rfl, head, searched, .inr ⟨found, long⟩⟩
  | some i =>
    have long : headLimit < (p.extended data).headLength + (i + 2) := by
      rcases exceeding.long with already | ⟨unbroken, long⟩
      · rw [extended_headLength]
        omega
      · -- The line ends behind what was pending.
        have none := Bytes.lineEnd?_eq_none_iff_unbroken.mpr unbroken
        rw [← exceeding.searched.lineEnd?] at none
        have late := Bytes.length_le_of_lineEnd?_append none found
        rw [extended_headLength]
        omega
    rw [advance_line_tooLarge head found long]
    exact ⟨rfl, rfl, head, .of_scanned_zero rfl, .inl long⟩

theorem Exceeding.called {p : Parser S} (exceeding : p.Exceeding) {call : Call} (unreset : call ≠ .reset) :
    (p.called call).awaiting = p.awaiting ∧ (p.called call).Exceeding := by
  cases call with
  | feed data => exact (exceeding.feed data).2
  | ignore flag => exact ⟨rfl, exceeding.head, exceeding.searched.called (.ignore flag), exceeding.long⟩
  | take =>
    have same : p.take.2 = p := by
      unfold Parser.take
      split
      · rename_i m state
        exact absurd exceeding.head (by rw [state]; exact id)
      · rfl
    rw [Parser.called, same]
    exact ⟨rfl, exceeding⟩
  | reset => exact absurd rfl unreset

theorem Exceeding.calledAll {p : Parser S} (exceeding : p.Exceeding) {calls : List Call} (unreset : .reset ∉ calls) :
    (p.calledAll calls).awaiting = p.awaiting ∧ (p.calledAll calls).Exceeding := by
  induction calls generalizing p with
  | nil => exact ⟨rfl, exceeding⟩
  | cons call rest ih =>
    rw [List.mem_cons, not_or] at unreset
    obtain ⟨state, onward⟩ := exceeding.called (Ne.symm unreset.1)
    obtain ⟨last, lasting⟩ := ih onward unreset.2
    exact ⟨last.trans state, lasting⟩

theorem sticks_of_tooLarge {p : Parser S} {data : Bytes} {limit : Nat} (searched : p.Searched)
    (failed : (p.feed data).1 = .error (.headTooLarge limit)) :
    limit = headLimit ∧ ∃ before rest, Sticks p data before rest := by
  obtain ⟨later, fed⟩ : ∃ later, p.feed data = (.error (.headTooLarge limit), later) := ⟨_, Prod.ext failed rfl⟩
  obtain ⟨before, q, passes, head, fails⟩ :=
    failsAt_of_advance (searched.extended data) (advance_of_feed_error fed)
  cases fails with
  | refused unbroken parts fits refused => cases refusesLine_of_interpret head refused
  | tooLarge state pending long exceeding =>
    refine ⟨rfl, before, q.pending, ?_⟩
    constructor
    · exact passes.parts
    · exact passes.unbroken
    · rwa [passes.headLength] at long
    · rw [fed, state]
      exact passes.interpretAll
    · rw [fed, pending]
    · intro calls unreset
      rw [fed]
      obtain ⟨same, lasting⟩ := exceeding.calledAll unreset
      exact ⟨same, fun more => (lasting.feed more).1⟩

/-! ### How often lines are refused -/

/-- The octets that calls feed. -/
def fed (calls : List Call) : Bytes :=
  calls.flatMap fun
    | .feed data => data
    | _ => []

/-- The call is answered by the refusal of a line. -/
def refuses (p : Parser S) : Call → Bool
  | .feed data => match (p.feed data).1 with
    | .error e => e.refusesLine
    | .ok _ => false
  | _ => false

/-- How many of calls in turn are answered by the refusal of a line. -/
def refusals (p : Parser S) : List Call → Nat
  | [] => 0
  | call :: rest => (p.refuses call).toNat + (p.called call).refusals rest

/-- A finished reader refuses nothing. -/
theorem refusals_of_done {p : Parser S} {m : Option (Message S)} (state : p.awaiting = .done m) {calls : List Call}
    (unreset : .reset ∉ calls) : p.refusals calls = 0 := by
  induction calls generalizing p m with
  | nil => rfl
  | cons call rest ih =>
    rw [List.mem_cons, not_or] at unreset
    cases call with
    | feed data => simp only [refusals, refuses, called, feed_of_done state, ih state unreset.2, Bool.toNat_false]
    | ignore flag => exact (Nat.zero_add _).trans (ih (p := p.called (.ignore flag)) state unreset.2)
    | take =>
      have taken : p.take.2.awaiting = .done none := by rw [take, state]
      exact (Nat.zero_add _).trans (ih (p := p.called .take) taken unreset.2)
    | reset => exact absurd rfl unreset.1

/-- What is pending behind a reading was pending before it. -/
theorem pending_advance_suffix (p : Parser S) : p.advance.2.pending <:+ p.pending := by
  induction p using line_induction with
  | later p behindHead =>
    obtain ⟨m, state⟩ | ⟨m, state⟩ := Awaiting.body_or_done behindHead
    · rw [advance_body state]
      split_ifs <;> exact List.nil_suffix
    · rw [advance_done state]
  | unfinished p head none =>
    by_cases fits : p.headLength + p.pending.length ≤ headLimit
    · rw [advance_open head none fits]
      exact List.suffix_refl _
    · rw [advance_open_tooLarge head none (by omega)]
  | line p i head found ih =>
    by_cases fits : p.headLength + (i + 2) ≤ headLimit
    · rw [advance_line head found fits]
      cases interpret p.ignoreBody (p.pending.take i) p.awaiting with
      | error e => exact List.drop_suffix _ _
      | ok next => exact (ih next).trans (List.drop_suffix _ _)
    · rw [advance_line_tooLarge head found (by omega)]

/-- A piece takes away the line end of the line that it makes the reader refuse. -/
theorem lineEnds_feed {p : Parser S} (searched : p.Searched) (unfinished : ∀ m, p.awaiting ≠ .done m)
    (data more : Bytes) :
    (p.refuses (.feed data)).toNat + lineEnds ((p.feed data).2.pending ++ more) ≤
      lineEnds (p.pending ++ (data ++ more)) := by
  cases refuses : p.refuses (.feed data) with
  | false =>
    have suffix := pending_advance_suffix (p.extended data)
    rw [← feed_of_not_done unfinished, extended_pending] at suffix
    obtain ⟨gone, parts⟩ := suffix
    have whole := Bytes.lineEnds_add_le gone ((p.feed data).2.pending ++ more)
    rw [← List.append_assoc, parts, List.append_assoc] at whole
    rw [Bool.toNat_false]
    omega
  | true =>
    cases result : (p.feed data).1 with
    | ok progress => simp [Parser.refuses, result] at refuses
    | error e =>
      simp only [Parser.refuses, result] at refuses
      obtain ⟨before, line, rest, earlier, skips⟩ := skips_of_refused searched result refuses
      have parts : p.pending ++ (data ++ more) = (ended before ++ line) ++ (crlf ++ (rest ++ more)) := by
        rw [← List.append_assoc, skips.parts]
        simp only [List.append_assoc]
      have whole := Bytes.lineEnds_add_le (ended before ++ line) (crlf ++ (rest ++ more))
      rw [Bytes.lineEnds_crlf_append] at whole
      rw [parts, skips.pending, Bool.toNat_true]
      omega

/-- Between resets, lines are refused as often as line ends came in at most. -/
theorem refusals_le_lineEnds {p : Parser S} (searched : p.Searched) {calls : List Call} (unreset : .reset ∉ calls) :
    p.refusals calls ≤ lineEnds (p.pending ++ fed calls) := by
  induction calls generalizing p with
  | nil => exact Nat.zero_le _
  | cons call rest ih =>
    by_cases finished : ∃ m, p.awaiting = .done m
    · obtain ⟨m, state⟩ := finished
      rw [refusals_of_done state unreset]
      exact Nat.zero_le _
    · rw [List.mem_cons, not_or] at unreset
      have onward := ih (searched.called call) unreset.2
      cases call with
      | feed data =>
        have step := lineEnds_feed searched (fun m state => finished ⟨m, state⟩) data (fed rest)
        have total : fed (.feed data :: rest) = data ++ fed rest := List.flatMap_cons
        rw [refusals, total]
        rw [called] at onward ⊢
        omega
      | ignore flag => exact (Nat.zero_add _).trans_le onward
      | take =>
        have same : p.take.2.pending = p.pending := by
          rw [take]
          split <;> rfl
        rw [called, same] at onward
        exact (Nat.zero_add _).trans_le onward
      | reset => exact absurd rfl unreset.1

/-- What holds of the errors of a reader. -/
structure Failing (p : Parser S) : Prop where
  /-- A line that is refused is gone, and nothing else changes. -/
  skips : ∀ data e, (p.feed data).1 = .error e → e.refusesLine →
    ∃ before line rest earlier, Skips p data before line rest earlier
  /-- This happens once for each line end at most. -/
  counted : ∀ calls, .reset ∉ calls → p.refusals calls ≤ lineEnds (p.pending ++ fed calls)
  /-- A head that is too long stays so. -/
  sticks : ∀ data limit, (p.feed data).1 = .error (.headTooLarge limit) →
    limit = headLimit ∧ ∃ before rest, Sticks p data before rest

/-- Whatever was called on a reader, an error takes away the line that is refused and nothing else, and a head that is
too long is an error until the reader is reset. -/
theorem failing_calledAll (calls : List Call) : Failing ((fresh : Parser S).calledAll calls) := by
  have searched : ((fresh : Parser S).calledAll calls).Searched := Searched.calledAll (.of_scanned_zero rfl) calls
  constructor
  · intro data e failed refuses
    exact skips_of_refused searched failed refuses
  · intro later unreset
    exact refusals_le_lineEnds searched unreset
  · intro data limit failed
    exact sticks_of_tooLarge searched failed

/-- A header line is refused and skipped; what is pending behind it then completes the message. -/
example :
    let head := Utf8.encode "HTTP/1.1 200 OK\r\nContent-Length: two\r\nContent-Length: 2\r\n\r\nhi"
    let read := (fresh : Parser StatusLine).feed head
    read.1 = .error (.contentLength (.unreadable "two")) ∧
      read.2.pending = Utf8.encode "Content-Length: 2\r\n\r\nhi" ∧ (read.2.feed []).1 = .ok .complete := by
  decide +kernel

end Parser
end HttpExchange
