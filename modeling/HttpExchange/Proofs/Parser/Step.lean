import HttpExchange.Parser
import HttpExchange.Proofs.LineEnd

/-!
What a reader does with its pending octets, one equation for each case: a body or a finished message, an
unfinished line, a line that is too long, a line that is read. Every other statement about readers is
proved from these equations and from the induction along the lines of a head.
-/
namespace HttpExchange
variable {S : Type}

/-- The head of the message is not read to its end. -/
def Awaiting.InHead : Awaiting S → Prop
  | .startLine => True
  | .headers _ => True
  | .body _ => False
  | .done _ => False

theorem Awaiting.body_or_done {a : Awaiting S} (behindHead : ¬ a.InHead) :
    (∃ m, a = .body m) ∨ ∃ m, a = .done m := by
  cases a with
  | startLine => exact absurd trivial behindHead
  | headers m => exact absurd trivial behindHead
  | body m => exact .inl ⟨m, rfl⟩
  | done m => exact .inr ⟨m, rfl⟩

/-- The message with octets added to its body, up to the declared length. -/
def Message.filled (m : Message S) (octets : Bytes) : Message S :=
  { m with body := m.body ++ octets.take (m.contentLength.getD 0 - m.body.length) }

/-- A body filled in two pieces is filled as by both at once. -/
theorem Message.filled_append (m : Message S) (octets more : Bytes) :
    m.filled (octets ++ more) = (m.filled octets).filled more := by
  simp only [filled, List.take_append, List.append_assoc, List.length_append, List.length_take]
  congr 4
  omega

/-- A complete message takes in nothing more. -/
theorem Message.filled_of_complete {m : Message S} (complete : m.isComplete) (octets : Bytes) :
    m.filled octets = m := by
  unfold isComplete at complete
  cases declared : m.contentLength with
  | none => simp [declared] at complete
  | some length =>
    simp only [declared, decide_eq_true_eq] at complete
    have full : length - m.body.length = 0 := by omega
    simp only [filled, declared, Option.getD_some, full, List.take_zero, List.append_nil]
    rw [← declared]

namespace Parser

/-- The reader with octets added to those that are pending. -/
def extended (p : Parser S) (more : Bytes) : Parser S := { p with pending := p.pending ++ more }

/-- The reader with its search resumed from a place. -/
def resumedFrom (p : Parser S) (place : Nat) : Parser S := { p with scanned := place }

/-- The reader behind a line of `i` octets and its end. -/
def behind (p : Parser S) (i : Nat) : Parser S :=
  ⟨p.awaiting, p.pending.drop (i + 2), 0, p.headLength + (i + 2), p.ignoreBody⟩

@[simp] theorem extended_awaiting (p : Parser S) (more : Bytes) : (p.extended more).awaiting = p.awaiting := rfl
@[simp] theorem extended_pending (p : Parser S) (more : Bytes) :
    (p.extended more).pending = p.pending ++ more := rfl
@[simp] theorem extended_scanned (p : Parser S) (more : Bytes) : (p.extended more).scanned = p.scanned := rfl
@[simp] theorem extended_headLength (p : Parser S) (more : Bytes) :
    (p.extended more).headLength = p.headLength := rfl
@[simp] theorem extended_ignoreBody (p : Parser S) (more : Bytes) :
    (p.extended more).ignoreBody = p.ignoreBody := rfl

@[simp] theorem resumedFrom_awaiting (p : Parser S) (place : Nat) : (p.resumedFrom place).awaiting = p.awaiting := rfl
@[simp] theorem resumedFrom_pending (p : Parser S) (place : Nat) : (p.resumedFrom place).pending = p.pending := rfl
@[simp] theorem resumedFrom_scanned (p : Parser S) (place : Nat) : (p.resumedFrom place).scanned = place := rfl
@[simp] theorem resumedFrom_headLength (p : Parser S) (place : Nat) :
    (p.resumedFrom place).headLength = p.headLength := rfl
@[simp] theorem resumedFrom_ignoreBody (p : Parser S) (place : Nat) :
    (p.resumedFrom place).ignoreBody = p.ignoreBody := rfl

/-! ### The search for a line -/

theorem nextLine_of_open {p : Parser S} (none : p.pending.lineEnd? p.scanned = none)
    (fits : p.headLength + p.pending.length ≤ headLimit) :
    p.nextLine = .unfinished (p.resumedFrom (p.pending.length - 1)) := by
  simp only [nextLine, none]
  rw [if_neg (by omega), resumedFrom]

theorem nextLine_of_open_tooLarge {p : Parser S} (none : p.pending.lineEnd? p.scanned = none)
    (long : headLimit < p.headLength + p.pending.length) : p.nextLine = .tooLarge p := by
  simp only [nextLine, none]
  rw [if_pos long]

theorem nextLine_of_line {p : Parser S} {i : Nat} (found : p.pending.lineEnd? p.scanned = some i)
    (fits : p.headLength + (i + 2) ≤ headLimit) :
    p.nextLine = .found (p.pending.take i) (p.behind i) := by
  simp only [nextLine, found]
  rw [if_neg (by omega), behind]

theorem nextLine_of_line_tooLarge {p : Parser S} {i : Nat} (found : p.pending.lineEnd? p.scanned = some i)
    (long : headLimit < p.headLength + (i + 2)) :
    p.nextLine = .tooLarge { p with scanned := 0, headLength := p.headLength + (i + 2) } := by
  simp only [nextLine, found]
  rw [if_pos long]

variable [StartLine S]

/-! ### One line -/

theorem interpret_startLine {ignore : Bool} {line : Bytes} (nonblank : line ≠ []) :
    interpret ignore line (.startLine : Awaiting S) = match startLine line with
      | .error fault => .error (.startLine fault)
      | .ok start => .ok (.headers (.ofStart start)) := if_neg nonblank

theorem interpret_headers {ignore : Bool} {line : Bytes} (nonblank : line ≠ []) (m : Message S) :
    interpret ignore line (.headers m) = match headerLine m line with
      | .error fault => .error (.contentLength fault)
      | .ok m => .ok (.headers m) := if_neg nonblank

theorem interpret_blank (ignore : Bool) (m : Message S) :
    interpret ignore [] (.headers m) = (endHead ignore m).mapError .contentLength := rfl

/-- A body follows the head: it is not ignored, and the start line does not exclude it. -/
def Bodied (ignore : Bool) (m : Message S) : Prop := ignore = false ∧ m.mayHaveBody = true

theorem endHead_of_not_bodied {ignore : Bool} {m : Message S} (bodiless : ¬ Bodied ignore m) :
    endHead ignore m = .ok (.done (some m)) := by
  rw [endHead, if_pos]
  cases ignore
  · simpa [Bodied] using bodiless
  · rfl

theorem endHead_of_bodied {ignore : Bool} {m : Message S} (bodied : Bodied ignore m) :
    endHead ignore m = match m.contentLength with
      | none => .error .missing
      | some _ => .ok (.body m) := by
  rw [endHead, bodied.1, bodied.2]
  rfl

theorem not_inHead_of_endHead {ignore : Bool} {m : Message S} {next : Awaiting S}
    (ended : endHead ignore m = .ok next) : ¬ next.InHead := by
  by_cases bodied : Bodied ignore m
  · rw [endHead_of_bodied bodied] at ended
    cases length : m.contentLength with
    | none => simp [length] at ended
    | some n =>
      simp only [length, Except.ok.injEq] at ended
      subst ended
      exact id
  · rw [endHead_of_not_bodied bodied, Except.ok.injEq] at ended
    subst ended
    exact id

/-- What a line that is taken does: it is skipped, it starts the message, it adds to the headers or it ends the
head. -/
theorem interpret_ok {ignore : Bool} {line : Bytes} {state next : Awaiting S} (head : state.InHead)
    (read : interpret ignore line state = .ok next) :
    line = [] ∧ state = .startLine ∧ next = .startLine ∨
      line ≠ [] ∧ state = .startLine ∧ (∃ start, startLine line = .ok start ∧ next = .headers (.ofStart start)) ∨
      line ≠ [] ∧ (∃ m changed, state = .headers m ∧ headerLine m line = .ok changed ∧ next = .headers changed) ∨
      line = [] ∧ (∃ m, state = .headers m ∧ endHead ignore m = .ok next ∧ ¬ next.InHead) := by
  cases state with
  | startLine =>
    by_cases blank : line = []
    · subst blank
      cases read
      exact .inl ⟨rfl, rfl, rfl⟩
    · rw [interpret_startLine blank] at read
      cases start : startLine (S := S) line with
      | error fault => simp [start] at read
      | ok value =>
        simp only [start, Except.ok.injEq] at read
        exact .inr (.inl ⟨blank, rfl, value, rfl, read.symm⟩)
  | headers m =>
    by_cases blank : line = []
    · subst blank
      cases ended : endHead ignore m with
      | error fault => simp [interpret, ended, Except.mapError] at read
      | ok state =>
        simp only [interpret, ended, Except.mapError, if_true, Except.ok.injEq] at read
        subst read
        exact .inr (.inr (.inr ⟨rfl, m, rfl, ended, not_inHead_of_endHead ended⟩))
    · rw [interpret_headers blank] at read
      cases taken : headerLine m line with
      | error fault => simp [taken] at read
      | ok changed =>
        simp only [taken, Except.ok.injEq] at read
        exact .inr (.inr (.inl ⟨blank, m, changed, rfl, taken, read.symm⟩))
  | body m => exact head.elim
  | done m => exact head.elim

/-- Why a line is refused: as a start line, as a header line, or because the head ends with it. -/
theorem interpret_error {ignore : Bool} {line : Bytes} {state : Awaiting S} {e : ParseError} (head : state.InHead)
    (refused : interpret ignore line state = .error e) :
    line ≠ [] ∧ state = .startLine ∧ (∃ fault, startLine (S := S) line = .error fault ∧ e = .startLine fault) ∨
      line ≠ [] ∧ (∃ m fault, state = .headers m ∧ headerLine m line = .error fault ∧ e = .contentLength fault) ∨
      line = [] ∧ (∃ m fault, state = .headers m ∧ endHead ignore m = .error fault ∧ e = .contentLength fault) := by
  cases state with
  | startLine =>
    by_cases blank : line = []
    · simp [interpret, blank] at refused
    · rw [interpret_startLine blank] at refused
      cases read : startLine (S := S) line with
      | ok start => simp [read] at refused
      | error fault =>
        simp only [read, Except.error.injEq] at refused
        exact .inl ⟨blank, rfl, fault, rfl, refused.symm⟩
  | headers m =>
    by_cases blank : line = []
    · subst blank
      cases ended : endHead ignore m with
      | ok state => simp [interpret, ended, Except.mapError] at refused
      | error fault =>
        simp only [interpret, ended, Except.mapError, if_true, Except.error.injEq] at refused
        exact .inr (.inr ⟨rfl, m, fault, rfl, ended, refused.symm⟩)
    · rw [interpret_headers blank] at refused
      cases read : headerLine m line with
      | ok next => simp [read] at refused
      | error fault =>
        simp only [read, Except.error.injEq] at refused
        exact .inr (.inl ⟨blank, m, fault, rfl, read, refused.symm⟩)
  | body m => exact head.elim
  | done m => exact head.elim

/-! ### Reading on -/

theorem advance_done {p : Parser S} {m : Option (Message S)} (state : p.awaiting = .done m) :
    p.advance = (.ok .complete, p) := by
  rw [advance, state]

/-- The body takes in what is pending, and the reader is done if that fills it. -/
theorem advance_body {p : Parser S} {m : Message S} (state : p.awaiting = .body m) :
    p.advance =
      if (m.filled p.pending).isComplete then
        (.ok .complete, { p with awaiting := .done (some (m.filled p.pending)), pending := [] })
      else (.ok .needMore, { p with awaiting := .body (m.filled p.pending), pending := [] }) := by
  rw [advance, state]
  simp only [fillBody]
  by_cases full : (m.filled p.pending).isComplete
  · rw [if_pos full]
    simp only [Message.filled] at full
    simp only [full, if_true, Message.filled]
  · rw [if_neg full]
    simp only [Message.filled] at full
    simp only [full, Message.filled]
    rfl

theorem advance_head {p : Parser S} (head : p.awaiting.InHead) :
    p.advance = match p.nextLine with
      | .unfinished q => (.ok .needMore, q)
      | .tooLarge q => (.error (.headTooLarge headLimit), q)
      | .found line q => match interpret q.ignoreBody line q.awaiting with
        | .error e => (.error e, q)
        | .ok awaiting => advance { q with awaiting } := by
  rw [advance]
  split
  · rename_i state; simp [state, Awaiting.InHead] at head
  · rename_i state; simp [state, Awaiting.InHead] at head
  · split
    · rename_i search; rw [search]
    · rename_i search; rw [search]
    · rename_i line q search
      cases read : interpret q.ignoreBody line q.awaiting <;> simp only [search, read]

/-- An unfinished line waits for its end. -/
theorem advance_open {p : Parser S} (head : p.awaiting.InHead) (none : p.pending.lineEnd? p.scanned = none)
    (fits : p.headLength + p.pending.length ≤ headLimit) :
    p.advance = (.ok .needMore, p.resumedFrom (p.pending.length - 1)) := by
  rw [advance_head head, nextLine_of_open none fits]

theorem advance_open_tooLarge {p : Parser S} (head : p.awaiting.InHead)
    (none : p.pending.lineEnd? p.scanned = none) (long : headLimit < p.headLength + p.pending.length) :
    p.advance = (.error (.headTooLarge headLimit), p) := by
  rw [advance_head head, nextLine_of_open_tooLarge none long]

/-- A line within the limit is read, and what follows it after it unless it is refused. -/
theorem advance_line {p : Parser S} {i : Nat} (head : p.awaiting.InHead)
    (found : p.pending.lineEnd? p.scanned = some i) (fits : p.headLength + (i + 2) ≤ headLimit) :
    p.advance = match interpret p.ignoreBody (p.pending.take i) p.awaiting with
      | .error e => (.error e, p.behind i)
      | .ok awaiting => advance { p.behind i with awaiting } := by
  rw [advance_head head, nextLine_of_line found fits]
  rfl

theorem advance_line_tooLarge {p : Parser S} {i : Nat} (head : p.awaiting.InHead)
    (found : p.pending.lineEnd? p.scanned = some i) (long : headLimit < p.headLength + (i + 2)) :
    p.advance = (.error (.headTooLarge headLimit),
      { p with scanned := 0, headLength := p.headLength + (i + 2) }) := by
  rw [advance_head head, nextLine_of_line_tooLarge found long]

/-- A finished reader drops what it is given. -/
theorem feed_of_done {p : Parser S} {m : Option (Message S)} (state : p.awaiting = .done m) (data : Bytes) :
    p.feed data = (.ok .complete, p) := by
  rw [feed, state]

/-- Any other reader adds what it is given to what is pending. -/
theorem feed_of_not_done {p : Parser S} (unfinished : ∀ m, p.awaiting ≠ .done m) (data : Bytes) :
    p.feed data = (p.extended data).advance := by
  unfold feed
  split
  · rename_i m state; exact absurd state (unfinished m)
  · rfl

theorem feed_of_head {p : Parser S} (head : p.awaiting.InHead) (data : Bytes) :
    p.feed data = (p.extended data).advance :=
  feed_of_not_done (fun m state => by simp [state, Awaiting.InHead] at head) data

omit [StartLine S] in
/-- Induction along the lines of a head: a reader behind the head, one in an unfinished line, and one at a
line that may assume the statement behind that line. -/
theorem line_induction {motive : Parser S → Prop}
    (later : ∀ p : Parser S, ¬ p.awaiting.InHead → motive p)
    (unfinished : ∀ p : Parser S, p.awaiting.InHead → p.pending.lineEnd? p.scanned = none → motive p)
    (line : ∀ (p : Parser S) (i : Nat), p.awaiting.InHead → p.pending.lineEnd? p.scanned = some i →
      (∀ awaiting, motive { p.behind i with awaiting }) → motive p) (p : Parser S) : motive p := by
  induction size : p.pending.length using Nat.strongRecOn generalizing p with
  | ind n ih =>
    by_cases head : p.awaiting.InHead
    · cases found : p.pending.lineEnd? p.scanned with
      | none => exact unfinished p head found
      | some i =>
        refine line p i head found fun awaiting => ih _ ?_ _ rfl
        have bound := Bytes.lineEnd?_lt found
        simp only [behind, List.length_drop]
        omega
    · exact later p head

end Parser
end HttpExchange
