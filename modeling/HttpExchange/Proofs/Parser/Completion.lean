import HttpExchange.Proofs.Parser.Grammar

/-!
What a reader that is done holds. It is done with a message that can be taken out, and a message that ends with
its head has no body. The first blank line behind a start line ends the head, so the lines of a head are the only ones
with which it can be read. Pieces fed in turn are one reading as long as the reader waits for more.
-/
namespace HttpExchange.Parser
variable {S : Type} [StartLine S]
open Bytes (crlf ended Unbroken)

/-! ### Pieces in turn -/

/-- A reader that waits for more behind some pieces goes on with the next ones. -/
theorem feedAll_append {p q : Parser S} {pieces : List Bytes} (waits : p.feedAll pieces = (.ok .needMore, q))
    (more : List Bytes) : p.feedAll (pieces ++ more) = q.feedAll more := by
  induction pieces generalizing p with
  | nil =>
    cases waits
    rfl
  | cons piece rest ih =>
    rw [List.cons_append, feedAll]
    rw [feedAll] at waits
    rcases fed : p.feed piece with ⟨_ | _ | _, r⟩
    · simp [fed] at waits
    · simp only [fed] at waits ⊢
      exact ih waits
    · simp [fed] at waits

theorem feedAll_singleton (p : Parser S) (piece : Bytes) : p.feedAll [piece] = p.feed piece := by
  rw [feedAll]
  rcases p.feed piece with ⟨_ | _ | _, q⟩ <;> rfl

theorem feedAll_concat {p q : Parser S} {pieces : List Bytes} (waits : p.feedAll pieces = (.ok .needMore, q))
    (piece : Bytes) : p.feedAll (pieces ++ [piece]) = q.feed piece := by
  rw [feedAll_append waits, feedAll_singleton]

/-- What the grammar says of the pieces that a fresh reader was fed. -/
theorem reads_feedAll {ignore : Bool} {pieces : List Bytes} {result : Except ParseError Progress} {q : Parser S}
    (fed : (freshIgnoring ignore).feedAll pieces = (result, q)) : Reads ignore pieces.flatten result q.awaiting := by
  have reads := reads_feed (S := S) ignore pieces.flatten
  rwa [← outcome_feedAll_fresh, fed] at reads

/-! ### The message -/

theorem Reads.message {ignore : Bool} {input : Bytes} {state : Awaiting S}
    (reads : Reads ignore input (.ok .complete) state) : ∃ m, state = .done (some m) := by
  cases reads with
  | headOnly => exact ⟨_, rfl⟩
  | whole => exact ⟨_, rfl⟩

/-- A message that no body follows is read without one. -/
theorem Reads.body_eq_nil {ignore : Bool} {input : Bytes} {m : Message S}
    (reads : Reads ignore input (.ok .complete) (.done (some m))) (bodiless : ¬ Bodied ignore m) : m.body = [] := by
  cases reads with
  | headOnly place => exact place.awaits.body
  | whole place bodied => exact absurd bodied bodiless

omit [StartLine S] in
theorem take_of_done {p : Parser S} {m : Option (Message S)} (state : p.awaiting = .done m) : p.take.1 = m := by
  rw [take, state]

omit [StartLine S] in
/-- What can be taken out is the message as far as it is read. -/
theorem message_of_take {p : Parser S} {m : Message S} (taken : p.take.1 = some m) : p.message = some m := by
  unfold take at taken
  split at taken
  · rename_i state
    rw [message, state]
    exact taken
  · cases taken

/-- A reader that is done with the pieces it was fed has a message. -/
theorem take_of_complete {ignore : Bool} {pieces : List Bytes} {q : Parser S}
    (fed : (freshIgnoring ignore).feedAll pieces = (.ok .complete, q)) : ∃ m, q.take.1 = some m := by
  obtain ⟨m, state⟩ := (reads_feedAll fed).message
  exact ⟨m, take_of_done state⟩

/-- The message that is taken out is the one that the grammar reads. -/
theorem reads_of_take {ignore : Bool} {pieces : List Bytes} {q : Parser S} {m : Message S}
    (fed : (freshIgnoring ignore).feedAll pieces = (.ok .complete, q)) (taken : q.take.1 = some m) :
    Reads ignore pieces.flatten (.ok .complete) (.done (some m)) := by
  have reads := reads_feedAll fed
  obtain ⟨other, state⟩ := reads.message
  rw [take_of_done state] at taken
  cases taken
  rwa [state] at reads

/-! ### The lines of a head -/

omit [StartLine S] in
/-- Lines that are not blank are settled by the first blank one behind them. -/
theorem eq_of_blank_behind {lines others rest otherRest : List Bytes} (nonblank : ∀ line ∈ lines, line ≠ [])
    (otherNonblank : ∀ line ∈ others, line ≠ []) (same : lines ++ [] :: rest = others ++ [] :: otherRest) :
    lines = others := by
  induction lines generalizing others with
  | nil =>
    cases others with
    | nil => rfl
    | cons other others => exact absurd (List.cons.inj same).1.symm (otherNonblank other (by simp))
  | cons line lines ih =>
    cases others with
    | nil => exact absurd (List.cons.inj same).1 (nonblank line (by simp))
    | cons other others =>
      obtain ⟨rfl, behind⟩ := List.cons.inj same
      have later : lines = others := ih (fun line member => nonblank line (by simp [member]))
        (fun line member => otherNonblank line (by simp [member])) behind
      rw [later]

theorem Awaits.exists_headOf {before : List Bytes} {m : Message S} (awaits : Awaits before (.headers m)) :
    ∃ blank start lines, before = blank ++ start :: lines ∧ (∀ line ∈ blank, line = []) ∧ HeadOf start lines m := by
  cases awaits with
  | headers all head => exact ⟨_, _, _, rfl, all, head⟩

/-- The lines that an input begins with, up to a blank one, are those whose end a reader comes to. -/
theorem AtLine.same_head {input rest : Bytes} {before : List Bytes} {m : Message S}
    (place : AtLine input before [] rest (.headers m)) {start : Bytes} {lines : List Bytes}
    (nonblank : ∀ line ∈ start :: lines, line ≠ []) (unbroken : ∀ line ∈ start :: lines, Unbroken line)
    {more tail : Bytes} (same : input ++ more = ended (start :: lines ++ [[]]) ++ tail) :
    HeadOf start lines m ∧ before = start :: lines ∧ rest ++ more = tail := by
  obtain ⟨blank, first, others, rfl, allBlank, head⟩ := place.awaits.exists_headOf
  have parts : input ++ more = ended (blank ++ first :: others ++ [[]]) ++ (rest ++ more) := by
    rw [place.parts, Bytes.ended_append _ [[]], Bytes.ended_singleton]
    simp only [List.append_assoc]
  rw [parts] at same
  have unbrokenHere : ∀ line ∈ blank ++ first :: others ++ [[]], Unbroken line := by
    intro line member
    rcases List.mem_append.mp member with inside | last
    · exact place.unbroken line inside
    · rw [List.mem_singleton.mp last]
      exact Bytes.unbroken_nil
  have unbrokenThere : ∀ line ∈ start :: lines ++ [[]], Unbroken line := by
    intro line member
    rcases List.mem_append.mp member with inside | last
    · exact unbroken line inside
    · rw [List.mem_singleton.mp last]
      exact Bytes.unbroken_nil
  obtain ⟨early, late, aligned⟩ : ∃ early late,
      blank ++ first :: others ++ [] :: early = start :: lines ++ [] :: late := by
    rcases Bytes.prefix_or_prefix_of_ended unbrokenHere unbrokenThere same with ⟨tail, whole⟩ | ⟨tail, whole⟩
    · exact ⟨tail, [], by rw [← whole]; simp⟩
    · exact ⟨[], tail, by rw [← whole]; simp⟩
  -- A blank line at the beginning would be the start line, which is none.
  obtain rfl : blank = [] := by
    rcases blank with _ | ⟨line, blank⟩
    · rfl
    · have begins : line = start := (List.cons.inj aligned).1
      exact absurd (begins.symm.trans (allBlank line (by simp))) (nonblank start (by simp))
  rw [List.nil_append] at same aligned ⊢
  have nonblankHere : ∀ line ∈ first :: others, line ≠ [] := by
    intro line member
    rcases List.mem_cons.mp member with rfl | later
    · exact head.nonblank.1
    · exact head.nonblank.2 line later
  obtain ⟨rfl, rfl⟩ := List.cons.inj (eq_of_blank_behind nonblankHere nonblank aligned)
  exact ⟨head, rfl, List.append_cancel_left same⟩

end HttpExchange.Parser
