import HttpExchange.Proofs.Parser.Head

/-!
A reader through all calls that are made on it, in whatever order and also behind errors. Between two resets its
state goes forward only and a length that is declared stays; a head that waits is within its limit, a body that
waits is short of its length, and no body is longer than declared.
-/
namespace HttpExchange
variable {S : Type}

/-- How far a message is read. -/
def Awaiting.stage : Awaiting S → Nat
  | .startLine => 0
  | .headers _ => 1
  | .body _ => 2
  | .done _ => 3

/-- The length of the message is the one that its headers declare, and its body is not longer. -/
structure Message.Measured (m : Message S) : Prop where
  within : ∀ length, m.contentLength = some length → m.body.length ≤ length
  declared : ∀ length, m.contentLength = some length ↔
    ∃ value, m.headers.get? "Content-Length" = some value ∧ Text.Denotes value length ∧ length < Parser.lengthBound
  known : m.headers.contains "Content-Length" = m.contentLength.isSome

/-- A state with a message that is measured: nothing of the body is read with the head, and a body is waited for
only if its length is known. -/
structure Awaiting.Sound (a : Awaiting S) : Prop where
  measured : ∀ m, a.message = some m → m.Measured
  empty : ∀ m, a = .headers m → m.body = []
  known : ∀ m, a = .body m → ∃ length, m.contentLength = some length

/-- What may become of a state unless the reader is reset. -/
structure Awaiting.Onward (a b : Awaiting S) : Prop where
  stage : a.stage ≤ b.stage
  length : ∀ m length, a.message = some m → m.contentLength = some length →
    b = .done none ∨ ∃ later, b.message = some later ∧ later.contentLength = some length
  taken : a = .done none → b = .done none

theorem Awaiting.Onward.refl (a : Awaiting S) : a.Onward a where
  stage := le_rfl
  length m _ known declared := .inr ⟨m, known, declared⟩
  taken := id

theorem Awaiting.Onward.trans {a b c : Awaiting S} (first : a.Onward b) (second : b.Onward c) : a.Onward c where
  stage := first.stage.trans second.stage
  length m length known declared := by
    rcases first.length m length known declared with taken | ⟨later, there, same⟩
    · exact .inl (second.taken taken)
    · exact second.length later length there same
  taken taken := second.taken (first.taken taken)

/-- A message that is handed on as it is keeps its length. -/
theorem Awaiting.Onward.of_message {a b : Awaiting S} (stage : a.stage ≤ b.stage) {m later : Message S}
    (known : a.message = some m) (there : b.message = some later)
    (same : ∀ length, m.contentLength = some length → later.contentLength = some length) : a.Onward b where
  stage := stage
  length other length again declared := by
    obtain rfl := Option.some.inj (known.symm.trans again)
    exact .inr ⟨later, there, same length declared⟩
  taken taken := by
    rw [taken] at known
    cases known

namespace Parser

/-! ### One line -/

/-- What a header line that is taken does: nothing, it sets a field, or it declares the length. -/
theorem headerLine_ok {m changed : Message S} {line : Bytes} (taken : headerLine m line = .ok changed) :
    changed = m ∨
      (∃ field, ¬ IsLength field ∧ changed = { m with headers := m.headers.set field.name field.value }) ∨
      ∃ field length, IsLength field ∧ m.contentLength = none ∧ Text.Denotes field.value length ∧
        length < lengthBound ∧
        changed = { m with contentLength := some length, headers := m.headers.set field.name field.value } := by
  rw [headerLine_eq] at taken
  cases found : fieldOf? line with
  | none =>
    simp only [found, Except.ok.injEq] at taken
    exact .inl taken.symm
  | some field =>
    simp only [found] at taken
    by_cases isLength : IsLength field
    · rw [if_pos isLength] at taken
      cases read : declaredLength m.contentLength field.value with
      | error fault => simp [read] at taken
      | ok given =>
        cases given with
        | none =>
          simp only [read, Except.ok.injEq] at taken
          exact .inl taken.symm
        | some length =>
          simp only [read, Except.ok.injEq] at taken
          obtain ⟨unknown, denotes, below⟩ := declaredLength_some_iff.mp read
          exact .inr (.inr ⟨field, length, isLength, unknown, denotes, below, taken.symm⟩)
    · rw [if_neg isLength, Except.ok.injEq] at taken
      exact .inr (.inl ⟨field, isLength, taken.symm⟩)

variable [StartLine S]

/-- A head that ends makes the message complete or has its body read, the length of which is known then. -/
theorem endHead_ok {ignore : Bool} {m : Message S} {next : Awaiting S} (ended : endHead ignore m = .ok next) :
    next = .done (some m) ∨ next = .body m ∧ ∃ length, m.contentLength = some length := by
  by_cases bodied : Bodied ignore m
  · rw [endHead_of_bodied bodied] at ended
    cases declared : m.contentLength with
    | none => simp [declared] at ended
    | some length =>
      simp only [declared, Except.ok.injEq] at ended
      exact .inr ⟨ended.symm, length, rfl⟩
  · rw [endHead_of_not_bodied bodied, Except.ok.injEq] at ended
    exact .inl ended.symm

omit [StartLine S] in
theorem measured_ofStart (start : S) : (Message.ofStart start).Measured where
  within _ declared := by cases declared
  declared length := by simp [Message.ofStart, Headers.get?, Headers.empty]
  known := rfl

omit [StartLine S] in
/-- A header line keeps the message measured, its body as it is and a length that is known. -/
theorem measured_of_headerLine {m changed : Message S} {line : Bytes} (measured : m.Measured)
    (empty : m.body = []) (taken : headerLine m line = .ok changed) :
    changed.Measured ∧ changed.body = [] ∧
      ∀ length, m.contentLength = some length → changed.contentLength = some length := by
  rcases headerLine_ok taken with rfl | ⟨field, other, rfl⟩ | ⟨field, length, isLength, unknown, denotes, below, rfl⟩
  · exact ⟨measured, empty, fun _ => id⟩
  · have apart : Text.sameIgnoringCase field.name "Content-Length" = false := by
      rwa [← Bool.not_eq_true]
    have same := Headers.get?_set_of_ne apart m.headers field.value
    refine ⟨⟨measured.within, ?_, ?_⟩, empty, fun _ => id⟩
    · rw [same]
      exact measured.declared
    · rw [Headers.contains_eq_isSome, same, ← Headers.contains_eq_isSome]
      exact measured.known
  · have given := Headers.get?_set_of_named isLength m.headers
    refine ⟨⟨?_, ?_, ?_⟩, empty, fun _ known => ?_⟩
    · intro _ _
      rw [show m.body = [] from empty]
      exact Nat.zero_le _
    · intro other
      rw [Option.some.injEq]
      constructor
      · rintro rfl
        exact ⟨field.value, given, denotes, below⟩
      · rintro ⟨value, found, again, -⟩
        obtain rfl := Option.some.inj (given.symm.trans found)
        exact denotes.unique again
    · rw [Headers.contains_eq_isSome, given]
      rfl
    · rw [unknown] at known
      cases known

/-- A line that is taken keeps the state sound and goes forward. -/
theorem sound_of_interpret {ignore : Bool} {line : Bytes} {state next : Awaiting S} (head : state.InHead)
    (sound : state.Sound) (read : interpret ignore line state = .ok next) : next.Sound ∧ state.Onward next := by
  rcases interpret_ok head read with ⟨-, rfl, rfl⟩ | ⟨-, rfl, start, -, rfl⟩ | ⟨-, m, changed, rfl, taken, rfl⟩ |
      ⟨-, m, rfl, ended, -⟩
  · exact ⟨sound, .refl _⟩
  · refine ⟨⟨?_, ?_, nofun⟩, ⟨Nat.zero_le _, nofun, nofun⟩⟩
    · rintro _ ⟨⟩
      exact measured_ofStart start
    · rintro _ ⟨⟩
      rfl
  · obtain ⟨measured, empty, same⟩ := measured_of_headerLine (sound.measured m rfl) (sound.empty m rfl) taken
    refine ⟨⟨?_, ?_, nofun⟩, .of_message le_rfl rfl rfl same⟩
    · rintro _ ⟨⟩
      exact measured
    · rintro _ ⟨⟩
      exact empty
  · rcases endHead_ok ended with rfl | ⟨rfl, known⟩
    · refine ⟨⟨?_, nofun, nofun⟩, .of_message (by decide : 1 ≤ 3) rfl rfl fun _ => id⟩
      rintro _ ⟨⟩
      exact sound.measured m rfl
    · refine ⟨⟨?_, nofun, ?_⟩, .of_message (by decide : 1 ≤ 2) rfl rfl fun _ => id⟩
      · rintro _ ⟨⟩
        exact sound.measured m rfl
      · rintro _ ⟨⟩
        exact known

/-! ### One call -/

omit [StartLine S] in
/-- A body that is filled is not longer than declared. -/
theorem measured_filled {m : Message S} (measured : m.Measured) (octets : Bytes) : (m.filled octets).Measured where
  within length declared := by
    have before := measured.within length declared
    have known : m.contentLength = some length := declared
    simp only [Message.filled, known, Option.getD_some, List.length_append, List.length_take]
    omega
  declared := measured.declared
  known := measured.known

/-- Nothing is kept for later while a body is read, and the body is short of its length. -/
def Filling (p : Parser S) : Prop :=
  ∀ m, p.awaiting = .body m → p.pending = [] ∧ ∃ length, m.contentLength = some length ∧ m.body.length < length

/-- What reading on makes of a state. -/
structure Advanced (before : Awaiting S) (r : Except ParseError Progress × Parser S) : Prop where
  sound : r.2.awaiting.Sound
  onward : before.Onward r.2.awaiting
  filling : r.2.Filling
  bounded : r.1 = .ok .needMore → r.2.awaiting.InHead → r.2.headLength + r.2.pending.length ≤ headLimit

omit [StartLine S] in
/-- A reader that stays in the head where it was. -/
theorem Advanced.of_head {before : Awaiting S} (head : before.InHead) (sound : before.Sound)
    {result : Except ParseError Progress} {q : Parser S} (stays : q.awaiting = before)
    (bounded : result = .ok .needMore → q.headLength + q.pending.length ≤ headLimit) : Advanced before (result, q) where
  sound := by rwa [stays]
  onward := by
    rw [stays]
    exact .refl before
  filling m state := by
    rw [stays] at state
    exact (state ▸ head : (Awaiting.body m).InHead).elim
  bounded waits _ := bounded waits

theorem advanced_body {p : Parser S} {m : Message S} (state : p.awaiting = .body m) (sound : p.awaiting.Sound) :
    Advanced p.awaiting p.advance := by
  have measured := measured_filled (sound.measured m (by rw [state]; rfl)) p.pending
  obtain ⟨length, known⟩ := sound.known m state
  rw [advance_body state, state]
  by_cases full : (m.filled p.pending).isComplete
  · rw [if_pos full]
    refine ⟨⟨?_, nofun, nofun⟩, .of_message (by decide : 2 ≤ 3) rfl rfl fun _ => id, nofun, nofun⟩
    rintro _ ⟨⟩
    exact measured
  · rw [if_neg full]
    refine ⟨⟨?_, nofun, ?_⟩, .of_message le_rfl rfl rfl fun _ => id, ?_, fun _ head => head.elim⟩
    · rintro _ ⟨⟩
      exact measured
    · rintro _ ⟨⟩
      exact ⟨length, known⟩
    · rintro _ ⟨⟩
      refine ⟨rfl, length, known, ?_⟩
      have declared : (m.filled p.pending).contentLength = some length := known
      rw [Message.isComplete, declared, decide_eq_true_eq] at full
      exact Nat.lt_of_not_le full

/-- Reading on from a sound state, along the lines of the head and into the body. -/
theorem advanced (p : Parser S) (sound : p.awaiting.Sound) : Advanced p.awaiting p.advance := by
  induction p using line_induction with
  | later p behindHead =>
    obtain ⟨m, state⟩ | ⟨m, state⟩ := Awaiting.body_or_done behindHead
    · exact advanced_body state sound
    · rw [advance_done state]
      exact ⟨sound, .refl _, fun m other => by simp [state] at other, nofun⟩
  | unfinished p head none =>
    by_cases fits : p.headLength + p.pending.length ≤ headLimit
    · rw [advance_open head none fits]
      exact .of_head head sound rfl fun _ => fits
    · rw [advance_open_tooLarge head none (by omega)]
      exact .of_head head sound rfl nofun
  | line p i head found ih =>
    by_cases fits : p.headLength + (i + 2) ≤ headLimit
    · rw [advance_line head found fits]
      cases read : interpret p.ignoreBody (p.pending.take i) p.awaiting with
      | error e => exact .of_head head sound rfl nofun
      | ok next =>
        obtain ⟨later, step⟩ := sound_of_interpret head sound read
        have rest := ih next later
        exact { rest with onward := step.trans rest.onward }
    · rw [advance_line_tooLarge head found (by omega)]
      exact .of_head head sound rfl nofun

theorem advanced_feed {p : Parser S} (sound : p.awaiting.Sound) (data : Bytes) :
    Advanced p.awaiting (p.feed data) := by
  by_cases finished : ∃ m, p.awaiting = .done m
  · obtain ⟨m, state⟩ := finished
    rw [feed_of_done state]
    exact ⟨sound, .refl _, fun m other => by simp [state] at other, nofun⟩
  · rw [feed_of_not_done fun m state => finished ⟨m, state⟩]
    exact advanced (p.extended data) sound

/-- A call on a reader. -/
inductive Call
  | feed (data : Bytes)
  | ignore (flag : Bool)
  | take
  | reset
  deriving Repr, DecidableEq

/-- The reader behind a call. -/
def called (p : Parser S) : Call → Parser S
  | .feed data => (p.feed data).2
  | .ignore flag => { p with ignoreBody := flag }
  | .take => p.take.2
  | .reset => p.reset

/-- The reader behind calls in turn. -/
def calledAll (p : Parser S) (calls : List Call) : Parser S := calls.foldl called p

/-- What every call keeps. -/
structure Kept (p : Parser S) : Prop where
  sound : p.awaiting.Sound
  filling : p.Filling

omit [StartLine S] in
/-- Where there is no message, there is nothing to keep. -/
theorem kept_of_none {p : Parser S} (none : p.awaiting.message = none) : Kept p := by
  refine ⟨⟨fun m found => ?_, fun m state => ?_, fun m state => ?_⟩, fun m state => ?_⟩
  · rw [none] at found
    cases found
  all_goals
    rw [state] at none
    cases none

omit [StartLine S] in
theorem kept_fresh : Kept (fresh : Parser S) := kept_of_none rfl

omit [StartLine S] in
theorem Kept.take {p : Parser S} (kept : p.Kept) : p.take.2.Kept ∧ p.awaiting.Onward p.take.2.awaiting := by
  unfold Parser.take
  split
  · rename_i m state
    refine ⟨kept_of_none rfl, ?_⟩
    rw [state]
    exact ⟨le_rfl, fun _ _ _ _ => .inl rfl, fun _ => rfl⟩
  · exact ⟨kept, .refl _⟩

theorem Kept.called {p : Parser S} (kept : p.Kept) (call : Call) :
    (p.called call).Kept ∧ (call ≠ .reset → p.awaiting.Onward (p.called call).awaiting) := by
  cases call with
  | feed data =>
    have advanced := advanced_feed kept.sound data
    exact ⟨⟨advanced.sound, advanced.filling⟩, fun _ => advanced.onward⟩
  | ignore flag => exact ⟨⟨kept.sound, kept.filling⟩, fun _ => .refl _⟩
  | take => exact ⟨kept.take.1, fun _ => kept.take.2⟩
  | reset => exact ⟨kept_fresh, fun resets => absurd rfl resets⟩

/-! ### All calls -/

theorem Kept.calledAll {p : Parser S} (kept : p.Kept) (calls : List Call) :
    (p.calledAll calls).Kept ∧ (.reset ∉ calls → p.awaiting.Onward (p.calledAll calls).awaiting) := by
  induction calls generalizing p with
  | nil => exact ⟨kept, fun _ => .refl _⟩
  | cons call rest ih =>
    obtain ⟨next, step⟩ := kept.called call
    obtain ⟨last, run⟩ := ih next
    refine ⟨last, fun unreset => ?_⟩
    rw [List.mem_cons, not_or] at unreset
    exact (step (Ne.symm unreset.1)).trans (run unreset.2)

/-- What holds of a reader behind every call. -/
structure Disciplined (p : Parser S) : Prop where
  /-- The state does not go back unless the reader is reset. -/
  forward : ∀ later, .reset ∉ later → p.awaiting.stage ≤ (p.calledAll later).awaiting.stage
  /-- A head that waits for more is within the limit, with what is kept of its last line. -/
  bounded : ∀ data, (p.feed data).1 = .ok .needMore → (p.feed data).2.awaiting.InHead →
    (p.feed data).2.headLength + (p.feed data).2.pending.length ≤ headLimit
  /-- A body that waits for more is short of its length, and nothing is kept beside it. -/
  filling : ∀ m, p.awaiting = .body m →
    p.pending = [] ∧ ∃ length, m.contentLength = some length ∧ m.body.length < length
  /-- No body is longer than declared. -/
  within : ∀ m length, p.message = some m → m.contentLength = some length → m.body.length ≤ length
  /-- A body is there behind the head only. -/
  behindHead : ∀ m, p.message = some m → m.body ≠ [] → ¬ p.awaiting.InHead
  /-- A length is known if there is a field that declares one, and it is the one that the field denotes. -/
  declared : ∀ m, p.message = some m → m.headers.contains "Content-Length" = m.contentLength.isSome ∧
    ∀ length, m.contentLength = some length ↔ ∃ value,
      m.headers.get? "Content-Length" = some value ∧ Text.Denotes value length ∧ length < lengthBound
  /-- A length that is known stays for as long as the message is there, unless the reader is reset. -/
  lasting : ∀ m length later, p.message = some m → m.contentLength = some length → .reset ∉ later →
    (p.calledAll later).awaiting = .done none ∨
      ∃ last, (p.calledAll later).message = some last ∧ last.contentLength = some length
  /-- A finished reader drops what it is fed. -/
  finished : ∀ m data, p.awaiting = .done m → p.feed data = (.ok .complete, p)

theorem Kept.disciplined {p : Parser S} (kept : p.Kept) : p.Disciplined where
  forward later unreset := ((kept.calledAll later).2 unreset).stage
  bounded data := (advanced_feed kept.sound data).bounded
  filling := kept.filling
  within m length known := (kept.sound.measured m known).within length
  behindHead m known body head := by
    cases state : p.awaiting with
    | startLine => simp [message, state, Awaiting.message] at known
    | headers other =>
      simp only [message, state, Awaiting.message, Option.some.injEq] at known
      subst known
      exact body (kept.sound.empty other state)
    | body other => exact (state ▸ head : (Awaiting.body other).InHead).elim
    | done other => exact (state ▸ head : (Awaiting.done other).InHead).elim
  declared m known := ⟨(kept.sound.measured m known).known, (kept.sound.measured m known).declared⟩
  lasting m length later known declared unreset := ((kept.calledAll later).2 unreset).length m length known declared
  finished _ data state := feed_of_done state data

/-- Whatever is called on a reader, it stays disciplined: fed anything, also behind errors, told to ignore the body or
not, its message taken, reset. -/
theorem disciplined_calledAll (calls : List Call) : Disciplined ((fresh : Parser S).calledAll calls) :=
  (kept_fresh.calledAll calls).1.disciplined

end Parser
end HttpExchange
