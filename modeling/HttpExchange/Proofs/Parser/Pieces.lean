import HttpExchange.Proofs.Parser.Step
import HttpExchange.Response

/-!
A reader does not notice how its input is cut. The octets that were searched for a line end hold none, so
the search may be resumed; a piece that leaves a reader waiting leaves it where the octets so far put it,
and a piece that ends the reading would have ended it with any octets behind it.
-/
namespace HttpExchange.Parser
variable {S : Type}
open Bytes (crlf LineEndAt Unbroken)

/-- The searched octets hold no line end, and no later octet can make one of the last of them. Behind the
head nothing is searched. -/
structure Searched (p : Parser S) : Prop where
  inside : ∀ i < p.scanned, i + 1 < p.pending.length
  none : ∀ i < p.scanned, ¬ LineEndAt p.pending i
  behindHead : ¬ p.awaiting.InHead → p.scanned = 0

/-- What a result shows: the result itself and the state with the message so far. The octets that are kept
for later and how far they were searched do not count. -/
def outcome (r : Except ParseError Progress × Parser S) : Except ParseError Progress × Awaiting S :=
  (r.1, r.2.awaiting)

/-- A result that leaves the reader waiting hands it on, every other one stands. -/
def andThen (r : Except ParseError Progress × Parser S)
    (next : Parser S → Except ParseError Progress × Parser S) : Except ParseError Progress × Awaiting S :=
  match r with
  | (.ok .needMore, q) => outcome (next q)
  | (r, q) => outcome (r, q)

theorem andThen_wait (r : Except ParseError Progress × Parser S) :
    andThen r (fun q => (.ok .needMore, q)) = outcome r := by
  rcases r with ⟨_ | _ | _, q⟩ <;> rfl

theorem andThen_congr {r : Except ParseError Progress × Parser S}
    {next other : Parser S → Except ParseError Progress × Parser S}
    (same : ∀ q, r = (.ok .needMore, q) → outcome (next q) = outcome (other q)) :
    andThen r next = andThen r other := by
  rcases r with ⟨_ | _ | _, q⟩
  · rfl
  · exact same q rfl
  · rfl

theorem Searched.of_scanned_zero {p : Parser S} (zero : p.scanned = 0) : p.Searched where
  inside i before := by omega
  none i before := by omega
  behindHead _ := zero

theorem Searched.extended {p : Parser S} (searched : p.Searched) (more : Bytes) : (p.extended more).Searched where
  inside i before := by
    have := searched.inside i before
    simp only [extended_pending, List.length_append]
    omega
  none i before := by
    rw [extended_pending, Bytes.lineEndAt_append more (searched.inside i before)]
    exact searched.none i before
  behindHead := searched.behindHead

/-- The resumed search finds what a search from the start finds. -/
theorem Searched.lineEnd? {p : Parser S} (searched : p.Searched) :
    p.pending.lineEnd? p.scanned = p.pending.lineEnd? 0 :=
  Bytes.lineEnd?_resumed searched.none

/-- The last octet of an unfinished line is searched again. -/
theorem searched_of_open {p : Parser S} (head : p.awaiting.InHead) (none : p.pending.lineEnd? 0 = none) :
    (p.resumedFrom (p.pending.length - 1)).Searched where
  inside i before := by simp only [resumedFrom_scanned, resumedFrom_pending] at before ⊢; omega
  none i _ := Bytes.lineEnd?_eq_none_iff.mp none i (Nat.zero_le i)
  behindHead later := absurd head later

variable [StartLine S]

/-- A line ahead that fits is read, and what is behind it after it unless it is refused. -/
theorem Searched.advance_ahead {p : Parser S} (searched : p.Searched) (head : p.awaiting.InHead) {line rest : Bytes}
    (unbroken : Unbroken line) (parts : p.pending = line ++ crlf ++ rest)
    (fits : p.headLength + (line.length + 2) ≤ headLimit) :
    p.advance = match interpret p.ignoreBody line p.awaiting with
      | .error e => (.error e, ⟨p.awaiting, rest, 0, p.headLength + (line.length + 2), p.ignoreBody⟩)
      | .ok next => Parser.advance ⟨next, rest, 0, p.headLength + (line.length + 2), p.ignoreBody⟩ := by
  have found : p.pending.lineEnd? p.scanned = some line.length := by
    rw [searched.lineEnd?, parts]
    exact Bytes.lineEnd?_line unbroken rest
  have first : p.pending.take line.length = line := by rw [parts, List.append_assoc, List.take_left]
  have behind : p.pending.drop (line.length + 2) = rest := by
    rw [parts]
    exact List.drop_left' (by simp [crlf])
  have step := advance_line head found fits
  rw [first, Parser.behind, behind] at step
  refine step.trans ?_
  cases interpret p.ignoreBody line p.awaiting <;> rfl

theorem outcome_advance_body {p : Parser S} {m : Message S} (state : p.awaiting = .body m) :
    outcome p.advance =
      if (m.filled p.pending).isComplete then (.ok .complete, .done (some (m.filled p.pending)))
      else (.ok .needMore, .body (m.filled p.pending)) := by
  rw [advance_body state]
  split_ifs <;> rfl

/-- Where a reader resumes its search makes no difference but to where it will resume the next. -/
theorem advance_resumed {p : Parser S} (searched : p.Searched) :
    (p.resumedFrom 0).advance.1 = p.advance.1 ∧
      (p.resumedFrom 0).advance.2.resumedFrom 0 = p.advance.2.resumedFrom 0 := by
  by_cases head : p.awaiting.InHead
  · cases found : p.pending.lineEnd? 0 with
    | none =>
      have resumed : p.pending.lineEnd? p.scanned = none := searched.lineEnd?.trans found
      by_cases fits : p.headLength + p.pending.length ≤ headLimit
      · rw [advance_open head resumed fits, advance_open (p := p.resumedFrom 0) head found fits]
        exact ⟨rfl, rfl⟩
      · have long : headLimit < p.headLength + p.pending.length := by omega
        rw [advance_open_tooLarge head resumed long, advance_open_tooLarge (p := p.resumedFrom 0) head found long]
        exact ⟨rfl, rfl⟩
    | some i =>
      have resumed : p.pending.lineEnd? p.scanned = some i := searched.lineEnd?.trans found
      by_cases fits : p.headLength + (i + 2) ≤ headLimit
      · rw [advance_line head resumed fits, advance_line (p := p.resumedFrom 0) head found fits]
        exact ⟨rfl, rfl⟩
      · have long : headLimit < p.headLength + (i + 2) := by omega
        rw [advance_line_tooLarge head resumed long, advance_line_tooLarge (p := p.resumedFrom 0) head found long]
        exact ⟨rfl, rfl⟩
  · obtain ⟨m, state⟩ | ⟨m, state⟩ := Awaiting.body_or_done head
    · rw [advance_body state, advance_body (p := p.resumedFrom 0) state]
      by_cases full : (m.filled p.pending).isComplete
      · rw [if_pos full, if_pos (by exact full)]
        exact ⟨rfl, rfl⟩
      · rw [if_neg full, if_neg (by exact full)]
        exact ⟨rfl, rfl⟩
    · rw [advance_done state, advance_done (p := p.resumedFrom 0) state]
      exact ⟨rfl, rfl⟩

theorem outcome_advance_resumed {p : Parser S} (searched : p.Searched) :
    outcome p.advance = outcome (p.resumedFrom 0).advance := by
  obtain ⟨answer, left⟩ := advance_resumed searched
  exact Prod.ext answer.symm (congrArg Parser.awaiting left).symm

/-- A body takes in octets one piece after the other as it takes them in at once. -/
theorem outcome_advance_body_extended {p : Parser S} {m : Message S} (state : p.awaiting = .body m)
    (more : Bytes) :
    outcome (p.extended more).advance = andThen p.advance fun q => q.feed more := by
  rw [outcome_advance_body (p := p.extended more) state, advance_body state, extended_pending, m.filled_append]
  by_cases full : (m.filled p.pending).isComplete
  · rw [Message.filled_of_complete full, if_pos full, if_pos full]; rfl
  · rw [if_neg full]
    simp only [andThen, feed, List.nil_append]
    rw [outcome_advance_body (m := m.filled p.pending) rfl]

/-- Reading with more octets behind those that are pending is reading on with them. -/
theorem advance_extended (p : Parser S) (searched : p.Searched) (more : Bytes) :
    outcome (p.extended more).advance = andThen p.advance fun q => q.feed more := by
  induction p using line_induction with
  | later p behindHead =>
    obtain ⟨m, state⟩ | ⟨m, state⟩ := Awaiting.body_or_done behindHead
    · exact outcome_advance_body_extended state more
    · rw [advance_done state, advance_done (p := p.extended more) state]; rfl
  | unfinished p head none =>
    by_cases fits : p.headLength + p.pending.length ≤ headLimit
    · -- Both readers go on from the same octets; they differ in where the search is resumed.
      rw [advance_open head none fits, outcome_advance_resumed (searched.extended more)]
      rw [searched.lineEnd?] at none
      have again := outcome_advance_resumed ((searched_of_open head none).extended more)
      simp only [andThen]
      rw [feed_of_head (p := p.resumedFrom (p.pending.length - 1)) head, again]
      rfl
    · rw [advance_open_tooLarge head none (by omega)]
      cases found : (p.extended more).pending.lineEnd? (p.extended more).scanned with
      | none =>
        rw [advance_open_tooLarge (p := p.extended more) head found
          (by simp only [extended_headLength, extended_pending, List.length_append]; omega)]
        rfl
      | some i =>
        have late := Bytes.length_le_of_lineEnd?_append none found
        rw [advance_line_tooLarge (p := p.extended more) head found (by simp only [extended_headLength]; omega)]
        rfl
  | line p i head found ih =>
    have inside := Bytes.lineEnd?_lt found
    have stays : (p.extended more).pending.lineEnd? (p.extended more).scanned = some i :=
      Bytes.lineEnd?_append found more
    by_cases fits : p.headLength + (i + 2) ≤ headLimit
    · have line : (p.pending ++ more).take i = p.pending.take i := List.take_append_of_le_length (by omega)
      have rest : (p.pending ++ more).drop (i + 2) = p.pending.drop (i + 2) ++ more :=
        List.drop_append_of_le_length (by omega)
      rw [advance_line head found fits, advance_line (p := p.extended more) head stays fits]
      simp only [extended_ignoreBody, extended_pending, extended_awaiting, line]
      cases read : interpret p.ignoreBody (p.pending.take i) p.awaiting with
      | error e => simp [andThen, outcome, behind]
      | ok awaiting =>
        have onward := ih awaiting (.of_scanned_zero rfl)
        simpa only [behind, extended, rest] using onward
    · rw [advance_line_tooLarge head found (by omega), advance_line_tooLarge (p := p.extended more) head stays (by
        simp only [extended_headLength]; omega)]
      rfl

/-- What is kept for later has no line end in its searched part, whatever the reader came to. -/
theorem Searched.advance {p : Parser S} (searched : p.Searched) : p.advance.2.Searched := by
  induction p using line_induction with
  | later p behindHead =>
    obtain ⟨m, state⟩ | ⟨m, state⟩ := Awaiting.body_or_done behindHead
    · rw [advance_body state]
      split_ifs <;> exact .of_scanned_zero (searched.behindHead behindHead)
    · rw [advance_done state]; exact searched
  | unfinished p head none =>
    by_cases fits : p.headLength + p.pending.length ≤ headLimit
    · rw [advance_open head none fits]
      exact searched_of_open head (searched.lineEnd?.symm.trans none)
    · rw [advance_open_tooLarge head none (by omega)]; exact searched
  | line p i head found ih =>
    by_cases fits : p.headLength + (i + 2) ≤ headLimit
    · rw [advance_line head found fits]
      cases interpret p.ignoreBody (p.pending.take i) p.awaiting with
      | error e => exact .of_scanned_zero rfl
      | ok awaiting => exact ih awaiting (.of_scanned_zero rfl)
    · rw [advance_line_tooLarge head found (by omega)]; exact .of_scanned_zero rfl

theorem Searched.feed {p : Parser S} (searched : p.Searched) (data : Bytes) : (p.feed data).2.Searched := by
  unfold Parser.feed
  split
  · exact searched
  · exact (searched.extended data).advance

/-- Feeding two pieces at once is feeding them one after the other, up to the first result that is not a
call for more. -/
theorem outcome_feed_append {p : Parser S} (searched : p.Searched) (piece more : Bytes) :
    outcome (p.feed (piece ++ more)) = andThen (p.feed piece) fun q => q.feed more := by
  by_cases finished : ∃ m, p.awaiting = .done m
  · obtain ⟨m, state⟩ := finished
    rw [feed_of_done state, feed_of_done state]; rfl
  · have unfinished : ∀ m, p.awaiting ≠ .done m := fun m state => finished ⟨m, state⟩
    rw [feed_of_not_done unfinished, feed_of_not_done unfinished, ← advance_extended _ (searched.extended piece)]
    simp only [Parser.extended, List.append_assoc]

theorem outcome_feedAll_cons (p : Parser S) (piece : Bytes) (rest : List Bytes) :
    outcome (p.feedAll (piece :: rest)) = andThen (p.feed piece) fun q => q.feedAll rest := by
  simp only [feedAll]
  rcases p.feed piece with ⟨_ | _ | _, q⟩ <;> rfl

/-- Pieces fed in turn come to what all of them at once come to. -/
theorem outcome_feedAll {p : Parser S} (searched : p.Searched) (piece : Bytes) (rest : List Bytes) :
    outcome (p.feedAll (piece :: rest)) = outcome (p.feed (piece ++ rest.flatten)) := by
  induction rest generalizing p piece with
  | nil =>
    rw [outcome_feedAll_cons, List.flatten_nil, List.append_nil]
    exact andThen_wait (p.feed piece)
  | cons next rest ih =>
    rw [outcome_feedAll_cons, List.flatten_cons, outcome_feed_append searched]
    refine andThen_congr fun q fed => ih ?_ next
    have onward := searched.feed piece
    rwa [fed] at onward

theorem outcome_feedAll_fresh (ignore : Bool) (cut : List Bytes) :
    outcome ((freshIgnoring ignore : Parser S).feedAll cut) = outcome ((freshIgnoring ignore).feed cut.flatten) := by
  cases cut with
  | nil =>
    rw [feedAll, List.flatten_nil, feed_of_head (p := freshIgnoring ignore) trivial,
      advance_open (p := (freshIgnoring ignore).extended []) trivial rfl (Nat.zero_le _)]
    rfl
  | cons piece rest => exact outcome_feedAll (.of_scanned_zero rfl) piece rest

/-- However the input of a fresh reader is cut into pieces, reading them up to the first result that is not
a call for more gives the same result, the same state and the same message. -/
theorem feedAll_independent_of_cut (ignore : Bool) (input : Bytes) (cut other : List Bytes)
    (whole : cut.flatten = input) (otherWhole : other.flatten = input) :
    let read := (freshIgnoring ignore : Parser S).feedAll cut
    let reread := (freshIgnoring ignore : Parser S).feedAll other
    read.1 = reread.1 ∧ read.2.awaiting = reread.2.awaiting ∧ read.2.message = reread.2.message := by
  have same : outcome ((freshIgnoring ignore : Parser S).feedAll cut) =
      outcome ((freshIgnoring ignore).feedAll other) := by
    rw [outcome_feedAll_fresh, outcome_feedAll_fresh, whole, otherWhole]
  obtain ⟨result, state⟩ := Prod.mk.inj same
  exact ⟨result, state, congrArg Awaiting.message state⟩

/-- A response cut between CR and LF and inside its body, against the same response in one piece. -/
theorem feedAll_cut_inside_line_end :
    let head := Utf8.encode "HTTP/1.1 200 OK\r\nContent-Length: 2\r"
    let rest : Bytes := [10, 13, 10, 111, 107]
    let read := (freshIgnoring false : Parser StatusLine).feedAll [head, [], [10, 13, 10, 111], [107]]
    let reread := (freshIgnoring false : Parser StatusLine).feedAll [head ++ rest]
    [head, [], [10, 13, 10, 111], [107]].flatten = head ++ rest ∧ [head ++ rest].flatten = head ++ rest ∧
      read.1 = reread.1 ∧ read.2.awaiting = reread.2.awaiting ∧ read.2.message = reread.2.message :=
  ⟨rfl, rfl, feedAll_independent_of_cut false _ _ _ rfl rfl⟩

end HttpExchange.Parser
