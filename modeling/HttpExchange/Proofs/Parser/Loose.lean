import HttpExchange.Parser.Loose
import HttpExchange.Proofs.Parser.Discipline

/-!
A reader that keeps its message in a place of its own is at every time where the reader is that cannot be without its
message, whatever it would do if that place were empty.
-/
namespace HttpExchange
variable {S : Type}

/-- The state of a reader without its message. -/
def Awaiting.state : Awaiting S → ReadState
  | .startLine => .awaitingStartLine
  | .headers _ => .awaitingHeaders
  | .body _ => .awaitingBody
  | .done _ => .done

/-- The reader with its message in a place of its own. -/
def Parser.loose (p : Parser S) : LooseParser S :=
  ⟨p.awaiting.state, p.message, p.pending, p.scanned, p.headLength, p.ignoreBody⟩

namespace LooseParser
open HttpExchange.Parser (Call headLimit line_induction)

theorem state_loose_eq_done_iff {p : Parser S} : p.loose.state = .done ↔ ∃ m, p.awaiting = .done m := by
  cases state : p.awaiting <;> simp [Parser.loose, state, Awaiting.state]

theorem message_loose (p : Parser S) : p.loose.message = p.message := rfl

theorem headerLine_some (fallback : Fallback S) (m : Message S) (line : Bytes) :
    headerLine fallback (some m) line =
      match Parser.headerLine m line with
      | .error fault => .error (.contentLength fault)
      | .ok m => .ok (.awaitingHeaders, some m) := by
  unfold headerLine
  cases parts : Text.cut? ':' (Utf8.decodeLossy line) with
  | none => simp only [Parser.headerLine, parts]
  | some halves => rfl

variable [StartLine S]

theorem endHead_some (fallback : Fallback S) (ignore : Bool) (m : Message S) :
    endHead fallback ignore (some m) =
      ((Parser.endHead ignore m).mapError .contentLength).map fun next => (next.state, next.message) := by
  unfold endHead Parser.endHead
  by_cases bodiless : (ignore || !m.mayHaveBody) = true
  · simp only [if_pos bodiless]
    rfl
  · simp only [if_neg bodiless]
    cases m.contentLength <;> rfl

/-- With its message at hand, a reader reads a line as one does that cannot be without it. -/
theorem interpret_loose (fallback : Fallback S) (ignore : Bool) (line : Bytes) {a : Awaiting S} (head : a.InHead) :
    interpret fallback ignore line a.message a.state =
      (Parser.interpret ignore line a).map fun next => (next.state, next.message) := by
  cases a with
  | startLine =>
    by_cases blank : line = []
    · subst blank
      rfl
    · rw [Parser.interpret_startLine blank]
      simp only [interpret, Awaiting.state, if_neg blank]
      cases Parser.startLine (S := S) line <;> rfl
  | headers m =>
    have read : interpret fallback ignore line (Awaiting.headers m).message (Awaiting.headers m).state =
        if line = [] then endHead fallback ignore (some m) else headerLine fallback (some m) line := rfl
    rw [read]
    by_cases blank : line = []
    · rw [if_pos blank, blank, endHead_some, Parser.interpret_blank]
    · rw [if_neg blank, headerLine_some, Parser.interpret_headers blank]
      cases Parser.headerLine m line <;> rfl
  | body m => exact head.elim
  | done m => exact head.elim

theorem advance_of_head (fallback : Fallback S) {p : Parser S} (head : p.awaiting.InHead) :
    p.loose.advance fallback =
      match p.pending.lineEnd? p.scanned with
      | none =>
        if headLimit < p.headLength + p.pending.length then (.error (.headTooLarge headLimit), p.loose)
        else (.ok .needMore, (p.resumedFrom (p.pending.length - 1)).loose)
      | some i =>
        if headLimit < p.headLength + (i + 2) then
          (.error (.headTooLarge headLimit),
            { p.loose with scanned := 0, headLength := p.headLength + (i + 2) })
        else
          match interpret fallback p.ignoreBody (p.pending.take i) p.awaiting.message p.awaiting.state with
          | .error e => (.error e, (p.behind i).loose)
          | .ok (state, message) => advance fallback { (p.behind i).loose with state, message } := by
  rw [advance]
  split
  · rename_i state
    obtain ⟨m, state⟩ := state_loose_eq_done_iff.mp state
    rw [state] at head
    exact head.elim
  · rename_i state
    cases known : p.awaiting <;> simp [Parser.loose, known, Awaiting.state, Awaiting.InHead] at state head
  · split <;> rename_i found
    · rw [show p.pending.lineEnd? p.scanned = none from found]
      rfl
    · rw [show p.pending.lineEnd? p.scanned = some _ from found]
      rfl

/-- Reading on, a reader never misses its message, whatever it would do then. -/
theorem advance_loose (fallback : Fallback S) (p : Parser S) :
    p.loose.advance fallback = (p.advance.1, p.advance.2.loose) := by
  induction p using line_induction with
  | later p behindHead =>
    obtain ⟨m, state⟩ | ⟨m, state⟩ := Awaiting.body_or_done behindHead
    · rw [Parser.advance_body state, advance]
      simp only [Parser.loose, Parser.message, state, Awaiting.state, Awaiting.message, fillBody]
      by_cases full : (m.filled p.pending).isComplete
      · simp only [Message.filled] at full
        simp [Message.filled, full]
      · simp only [Message.filled] at full
        simp [Message.filled, full]
    · rw [Parser.advance_done state, advance]
      simp only [Parser.loose, Parser.message, state, Awaiting.state, Awaiting.message]
  | unfinished p head none =>
    rw [advance_of_head fallback head, none]
    by_cases fits : p.headLength + p.pending.length ≤ headLimit
    · rw [Parser.advance_open head none fits]
      simp only [if_neg (Nat.not_lt.mpr fits)]
    · rw [Parser.advance_open_tooLarge head none (by omega)]
      simp only [if_pos (Nat.lt_of_not_le fits)]
  | line p i head found ih =>
    rw [advance_of_head fallback head, found]
    by_cases fits : p.headLength + (i + 2) ≤ headLimit
    · simp only [if_neg (Nat.not_lt.mpr fits), interpret_loose fallback _ _ head]
      rw [Parser.advance_line head found fits]
      cases Parser.interpret p.ignoreBody (p.pending.take i) p.awaiting with
      | error e => rfl
      | ok next => exact ih next
    · rw [Parser.advance_line_tooLarge head found (by omega)]
      simp only [if_pos (Nat.lt_of_not_le fits)]
      rfl

theorem feed_loose (fallback : Fallback S) (p : Parser S) (data : Bytes) :
    p.loose.feed fallback data = ((p.feed data).1, (p.feed data).2.loose) := by
  unfold feed
  by_cases finished : ∃ m, p.awaiting = .done m
  · obtain ⟨m, state⟩ := finished
    rw [if_pos (state_loose_eq_done_iff.mpr ⟨m, state⟩), Parser.feed_of_done state]
  · rw [if_neg fun state => finished (state_loose_eq_done_iff.mp state),
      Parser.feed_of_not_done fun m state => finished ⟨m, state⟩]
    exact advance_loose fallback (p.extended data)

omit [StartLine S] in
theorem take_loose (p : Parser S) : p.loose.take = (p.take.1, p.take.2.loose) := by
  cases state : p.awaiting <;>
    simp [take, Parser.take, Parser.loose, Parser.message, state, Awaiting.state, Awaiting.message]

/-- The reader behind a call. -/
def called (fallback : Fallback S) (p : LooseParser S) : Call → LooseParser S
  | .feed data => (p.feed fallback data).2
  | .ignore flag => { p with ignoreBody := flag }
  | .take => p.take.2
  | .reset => p.reset

def calledAll (fallback : Fallback S) (p : LooseParser S) (calls : List Call) : LooseParser S :=
  calls.foldl (called fallback) p

theorem called_loose (fallback : Fallback S) (p : Parser S) (call : Call) :
    p.loose.called fallback call = (p.called call).loose := by
  cases call with
  | feed data => rw [called, feed_loose]; rfl
  | ignore flag => rfl
  | take => rw [called, take_loose]; rfl
  | reset => rfl

theorem calledAll_loose (fallback : Fallback S) (p : Parser S) (calls : List Call) :
    p.loose.calledAll fallback calls = (p.calledAll calls).loose := by
  induction calls generalizing p with
  | nil => rfl
  | cons call rest ih =>
    rw [calledAll, List.foldl_cons, called_loose]
    exact ih (p.called call)

end LooseParser

end HttpExchange
