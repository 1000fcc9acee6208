import HttpExchange.Client.Completion
import HttpExchange.Proofs.Replacement
import Mathlib

/-!
A completion as the history of what was done to it tells. A signal is armed from its making until it is finished or
dropped, which is its one attempt; of all attempts the first decides the result, and of all waits the first behind it
gets that.
-/
namespace HttpExchange.Rendezvous
open Replacement (concat_eq_append_cons_iff)
variable {α : Type}

/-- The signal that an action uses up. -/
def Action.signal? : Action α → Option Nat
  | finishSignal signal _ | dropSignal signal => some signal
  | _ => none

/-- The action makes a signal. -/
def Action.isMaking : Action α → Bool
  | makeSignal => true
  | _ => false

/-- The result of a wait that came to its end. -/
def Answer.result? : Answer α → Option (Except Failure α)
  | .result given => some given
  | _ => none

/-- What is there after a history, which begins with nothing. -/
def after (history : List (Action α)) : Rendezvous α := history.foldl (fun r action => (r.step action).2) fresh

/-- The results that the waits of a history got, in their order. -/
def received (r : Rendezvous α) : List (Action α) → List (Except Failure α)
  | [] => []
  | action :: rest => (r.step action).1.result?.toList ++ (r.step action).2.received rest

/-- The actions since the signal of this number was made. -/
def Since (history : List (Action α)) (signal : Nat) (later : List (Action α)) : Prop :=
  ∃ before, history = before ++ .makeSignal :: later ∧ before.countP Action.isMaking = signal

/-- The signal was made and not used up. -/
def Armed (history : List (Action α)) (signal : Nat) : Prop :=
  ∃ later, Since history signal later ∧ ∀ action ∈ later, action.signal? ≠ some signal

/-- The signal was made, and was finished or dropped after that. -/
def Gone (history : List (Action α)) (signal : Nat) : Prop :=
  ∃ later, Since history signal later ∧ ∃ action ∈ later, action.signal? = some signal

/-- The action is an attempt to finish with a result, at the end of this history. A signal that is dropped attempts
to cancel; one that is used up attempts nothing. -/
inductive Attempts (history : List (Action α)) : Action α → Except Failure α → Prop
  | finish (result : Except Failure α) : Attempts history (.finish result) result
  | finishSignal {signal : Nat} (armed : Armed history signal) (result : Except Failure α) :
      Attempts history (.finishSignal signal result) result
  | dropSignal {signal : Nat} (armed : Armed history signal) :
      Attempts history (.dropSignal signal) (.error .cancelled)

/-- Nothing in the history is an attempt. -/
def Unattempted (history : List (Action α)) : Prop :=
  ∀ before action later, history = before ++ action :: later → ∀ result, ¬ Attempts before action result

/-- The first attempt of the history was one with this result, and this came later. -/
def FirstAttempt (history : List (Action α)) (result : Except Failure α) (later : List (Action α)) : Prop :=
  ∃ before action, history = before ++ action :: later ∧ Unattempted before ∧ Attempts before action result

section
variable {history later more : List (Action α)} {action : Action α} {signal : Nat} {result : Except Failure α}

theorem after_append (history more : List (Action α)) :
    after (history ++ more) = more.foldl (fun r action => (r.step action).2) (after history) := List.foldl_append

theorem after_concat (history : List (Action α)) (action : Action α) :
    after (history ++ [action]) = ((after history).step action).2 := after_append history [action]

theorem received_concat (r : Rendezvous α) (history : List (Action α)) (action : Action α) :
    r.received (history ++ [action]) = r.received history ++
      ((history.foldl (fun r action => (r.step action).2) r).step action).1.result?.toList := by
  induction history generalizing r with
  | nil => simp [received]
  | cons first rest ih =>
    rw [List.cons_append, received, ih, received, List.append_assoc]
    rfl

/-! ### Signals -/

theorem since_concat : Since (history ++ [action]) signal later ↔
    (action = .makeSignal ∧ history.countP Action.isMaking = signal ∧ later = []) ∨
      ∃ earlier, later = earlier ++ [action] ∧ Since history signal earlier := by
  unfold Since
  simp only [concat_eq_append_cons_iff]
  constructor
  · rintro ⟨before, ⟨rfl, rfl, rfl⟩ | ⟨rest, rfl, rfl⟩, counted⟩
    · exact .inl ⟨rfl, counted, rfl⟩
    · exact .inr ⟨rest, rfl, before, rfl, counted⟩
  · rintro (⟨rfl, counted, rfl⟩ | ⟨rest, rfl, before, rfl, counted⟩)
    · exact ⟨history, .inl ⟨rfl, rfl, rfl⟩, counted⟩
    · exact ⟨before, .inr ⟨rest, rfl, rfl⟩, counted⟩

theorem armed_concat : Armed (history ++ [action]) signal ↔
    (action = .makeSignal ∧ history.countP Action.isMaking = signal) ∨
      (Armed history signal ∧ action.signal? ≠ some signal) := by
  unfold Armed
  simp only [since_concat]
  constructor
  · rintro ⟨later, ⟨made, counted, rfl⟩ | ⟨earlier, rfl, since⟩, unused⟩
    · exact .inl ⟨made, counted⟩
    · exact .inr ⟨⟨earlier, since, fun action member => unused action (List.mem_append_left _ member)⟩,
        unused action List.mem_concat_self⟩
  · rintro (⟨made, counted⟩ | ⟨⟨earlier, since, unused⟩, other⟩)
    · exact ⟨[], .inl ⟨made, counted, rfl⟩, nofun⟩
    · refine ⟨earlier ++ [action], .inr ⟨earlier, rfl, since⟩, fun one member => ?_⟩
      rcases List.mem_append.mp member with early | last
      · exact unused one early
      · rwa [List.mem_singleton.mp last]

theorem gone_concat : Gone (history ++ [action]) signal ↔
    Gone history signal ∨ (Armed history signal ∧ action.signal? = some signal) := by
  unfold Gone Armed
  simp only [since_concat]
  constructor
  · rintro ⟨later, ⟨-, -, rfl⟩ | ⟨earlier, rfl, since⟩, one, member, uses⟩
    · cases member
    · by_cases used : ∃ action ∈ earlier, action.signal? = some signal
      · exact .inl ⟨earlier, since, used⟩
      · rcases List.mem_append.mp member with early | last
        · exact absurd ⟨one, early, uses⟩ used
        · rw [List.mem_singleton.mp last] at uses
          exact .inr ⟨⟨earlier, since, fun action member uses => used ⟨action, member, uses⟩⟩, uses⟩
  · rintro (⟨earlier, since, one, member, uses⟩ | ⟨⟨earlier, since, -⟩, uses⟩)
    · exact ⟨earlier ++ [action], .inr ⟨earlier, rfl, since⟩, one, List.mem_append_left _ member, uses⟩
    · exact ⟨earlier ++ [action], .inr ⟨earlier, rfl, since⟩, action, List.mem_concat_self, uses⟩

/-- Using a signal up marks it as spent, whether it is armed, spent or unknown. -/
theorem signals_attempt (r : Rendezvous α) (signal : Nat) (result : Except Failure α) :
    (r.attempt signal result).signals = r.signals.set signal .spent := by
  unfold attempt
  split_ifs with armed
  · rfl
  · rcases found : r.signals[signal]? with _ | _ | _
    · exact (List.set_eq_of_length_le (List.getElem?_eq_none_iff.mp found)).symm
    · exact absurd found armed
    · obtain ⟨inside, same⟩ := List.getElem?_eq_some_iff.mp found
      rw [← same, List.set_getElem_self]

theorem signals_step (r : Rendezvous α) (action : Action α) : (r.step action).2.signals =
    if action.isMaking then r.signals ++ [.armed]
    else (action.signal?.map fun signal => r.signals.set signal .spent).getD r.signals := by
  cases action with
  | finish result => rfl
  | makeSignal => rfl
  | finishSignal signal result => exact signals_attempt r signal result
  | dropSignal signal => exact signals_attempt r signal _
  | wait =>
    unfold step
    cases r.completion.wait? <;> rfl

/-- A signal is listed as armed or spent just as the history has it. -/
theorem signals_after (history : List (Action α)) :
    (after history).signals.length = history.countP Action.isMaking ∧
      ∀ signal, ((after history).signals[signal]? = some .armed ↔ Armed history signal) ∧
        ((after history).signals[signal]? = some .spent ↔ Gone history signal) := by
  -- A signal has the number of those that were made before it, so that the length comes along.
  induction history using List.reverseRecOn with
  | nil => simp [after, fresh, Armed, Gone, Since]
  | append_singleton history action ih =>
    obtain ⟨length, listed⟩ := ih
    rw [after_concat, signals_step, List.countP_append, List.countP_singleton, ← length]
    cases made : action.isMaking with
    | true =>
      obtain rfl : action = .makeSignal := by
        cases action <;> first | rfl | cases made
      refine ⟨by simp, fun signal => ?_⟩
      rw [armed_concat, gone_concat, ← (listed signal).1, ← (listed signal).2, ← length, if_pos rfl]
      have unused : (Action.makeSignal : Action α).signal? = none := rfl
      grind
    | false =>
      refine ⟨?_, fun signal => ?_⟩
      · cases action.signal? <;> simp
      · have other : action ≠ .makeSignal := by
          rintro rfl
          cases made
        rw [armed_concat, gone_concat, ← (listed signal).1, ← (listed signal).2]
        cases used : action.signal? with
        | none => simp [other]
        | some spent =>
          rw [if_neg Bool.false_ne_true, Option.map_some, Option.getD_some]
          by_cases same : spent = signal
          · subst same
            rw [List.getElem?_set_self']
            rcases (after history).signals[spent]? with _ | _ | _
            · simp [other]
            · simp [other]
            · simp [other]
          · simp [same, other]

theorem not_armed_of_gone (gone : Gone history signal) : ¬ Armed history signal := by
  rw [← ((signals_after history).2 signal).2] at gone
  rw [← ((signals_after history).2 signal).1, gone]
  nofun

/-! ### Attempts -/

/-- An action on a signal is an attempt if the signal is armed. -/
theorem exists_attempts_iff (uses : action.signal? = some signal) :
    (∃ result, Attempts history action result) ↔ Armed history signal := by
  cases action with
  | finishSignal other given =>
    cases uses
    constructor
    · rintro ⟨result, ⟨⟩⟩
      assumption
    · intro armed
      exact ⟨given, .finishSignal armed given⟩
  | dropSignal other =>
    cases uses
    constructor
    · rintro ⟨result, ⟨⟩⟩
      assumption
    · intro armed
      exact ⟨_, .dropSignal armed⟩
  | _ => cases uses

theorem unattempted_nil : Unattempted ([] : List (Action α)) := by
  intro before action later parts
  simp at parts

theorem unattempted_concat : Unattempted (history ++ [action]) ↔
    Unattempted history ∧ ∀ result, ¬ Attempts history action result := by
  unfold Unattempted
  simp only [concat_eq_append_cons_iff]
  constructor
  · intro silent
    refine ⟨fun before one later parts => ?_, silent history action [] (.inl ⟨rfl, rfl, rfl⟩)⟩
    exact silent before one _ (.inr ⟨later, rfl, parts⟩)
  · rintro ⟨silent, last⟩ before one later (⟨rfl, rfl, rfl⟩ | ⟨rest, rfl, parts⟩)
    · exact last
    · exact silent before one rest parts

theorem firstAttempt_concat : FirstAttempt (history ++ [action]) result later ↔
    (later = [] ∧ Unattempted history ∧ Attempts history action result) ∨
      ∃ earlier, later = earlier ++ [action] ∧ FirstAttempt history result earlier := by
  unfold FirstAttempt
  simp only [concat_eq_append_cons_iff]
  constructor
  · rintro ⟨before, one, ⟨rfl, rfl, rfl⟩ | ⟨rest, rfl, rfl⟩, silent, attempts⟩
    · exact .inl ⟨rfl, silent, attempts⟩
    · exact .inr ⟨rest, rfl, before, one, rfl, silent, attempts⟩
  · rintro (⟨rfl, silent, attempts⟩ | ⟨rest, rfl, before, one, rfl, silent, attempts⟩)
    · exact ⟨history, action, .inl ⟨rfl, rfl, rfl⟩, silent, attempts⟩
    · exact ⟨before, one, .inr ⟨rest, rfl, rfl⟩, silent, attempts⟩

theorem unattempted_or_first (history : List (Action α)) :
    Unattempted history ∨ ∃ result later, FirstAttempt history result later := by
  induction history using List.reverseRecOn with
  | nil => exact .inl unattempted_nil
  | append_singleton history action ih =>
    simp only [unattempted_concat, firstAttempt_concat]
    rcases ih with silent | ⟨result, later, first⟩
    · by_cases attempts : ∃ result, Attempts history action result
      · obtain ⟨result, attempts⟩ := attempts
        exact .inr ⟨result, [], .inl ⟨rfl, silent, attempts⟩⟩
      · exact .inl ⟨silent, fun result attempt => attempts ⟨result, attempt⟩⟩
    · exact .inr ⟨result, _, .inr ⟨later, rfl, first⟩⟩

theorem attempt_of_armed {r : Rendezvous α} (armed : r.signals[signal]? = some .armed) (result : Except Failure α) :
    (r.attempt signal result).completion = (r.completion.finish result).2 := by
  rw [attempt, if_pos armed]

theorem attempt_of_unarmed {r : Rendezvous α} (unarmed : r.signals[signal]? ≠ some .armed) (result : Except Failure α) :
    r.attempt signal result = r := if_neg unarmed

/-- An attempt is left to the completion to judge. -/
theorem completion_of_attempts (attempts : Attempts history action result) :
    ((after history).step action).2.completion = ((after history).completion.finish result).2 := by
  cases attempts with
  | finish => rfl
  | finishSignal armed => exact attempt_of_armed (((signals_after history).2 _).1.mpr armed) _
  | dropSignal armed => exact attempt_of_armed (((signals_after history).2 _).1.mpr armed) _

/-- What is neither an attempt nor a wait leaves the completion alone. -/
theorem completion_of_idle (idle : ∀ result, ¬ Attempts history action result) (waits : action ≠ .wait) :
    ((after history).step action).2.completion = (after history).completion := by
  have unused {signal : Nat} (uses : action.signal? = some signal) : (after history).signals[signal]? ≠ some .armed := by
    rw [Ne, ((signals_after history).2 signal).1, ← exists_attempts_iff uses]
    exact fun attempts => idle _ attempts.choose_spec
  cases action with
  | finish result => exact absurd (.finish result) (idle result)
  | makeSignal => rfl
  | finishSignal signal result => exact congrArg completion (attempt_of_unarmed (unused rfl) result)
  | dropSignal signal => exact congrArg completion (attempt_of_unarmed (unused rfl) _)
  | wait => exact absurd rfl waits

theorem finish_of_finished {c : Completion α} (finished : c.isFinished = true) (result : Except Failure α) :
    c.finish result = (false, c) := by
  cases c with
  | pending => cases finished
  | _ => rfl

/-- A completion is finished before and after its result is taken. -/
theorem isFinished_of_told {c : Completion α} {taken : Prop} (before : ¬ taken → c = .finished result)
    (behind : taken → c = .collected) : c.isFinished = true := by
  by_cases gone : taken
  · rw [behind gone]
    rfl
  · rw [before gone]
    rfl

/-- Once an attempt was made, only a wait changes anything. -/
theorem completion_of_finished (finished : (after history).completion.isFinished = true) (waits : action ≠ .wait) :
    ((after history).step action).2.completion = (after history).completion := by
  by_cases attempts : ∃ result, Attempts history action result
  · obtain ⟨result, attempts⟩ := attempts
    rw [completion_of_attempts attempts, finish_of_finished finished]
  · exact completion_of_idle (fun result attempt => attempts ⟨result, attempt⟩) waits

/-! ### Waits -/

theorem step_wait_of_pending {r : Rendezvous α} (pending : r.completion = .pending) : r.step .wait = (.blocked, r) := by
  rw [step, pending]
  rfl

theorem step_wait_of_finished {r : Rendezvous α} (finished : r.completion = .finished result) :
    r.step .wait = (.result result, { r with completion := .collected }) := by
  rw [step, finished]
  rfl

theorem step_wait_of_collected {r : Rendezvous α} (collected : r.completion = .collected) :
    r.step .wait = (.result (.error .cancelled), { r with completion := .collected }) := by
  rw [step, collected]
  rfl

theorem received_concat_of_ne (waits : action ≠ .wait) :
    fresh.received (history ++ [action]) = fresh.received history := by
  rw [received_concat]
  cases action <;> first | exact List.append_nil _ | exact absurd rfl waits

theorem received_concat_wait (history : List (Action α)) : fresh.received (history ++ [.wait]) =
    fresh.received history ++ ((after history).step .wait).1.result?.toList := received_concat ..

/-- Before an attempt the completion is pending and nobody has got anything; then it holds the result of the first,
until a wait takes it; from then on there is nothing left for other waits. -/
theorem told_after (history : List (Action α)) :
    (Unattempted history → (after history).completion = .pending ∧ fresh.received history = []) ∧
      ∀ result later, FirstAttempt history result later →
        (.wait ∉ later → (after history).completion = .finished result ∧ fresh.received history = []) ∧
          (.wait ∈ later → (after history).completion = .collected ∧
            ∃ n, fresh.received history = result :: List.replicate n (.error .cancelled)) := by
  -- Of the last actions only a first attempt and a wait behind it change what is there.
  induction history using List.reverseRecOn with
  | nil =>
    refine ⟨fun _ => ⟨rfl, rfl⟩, ?_⟩
    rintro result later ⟨before, action, parts, -⟩
    simp at parts
  | append_singleton history action ih =>
    obtain ⟨before, behind⟩ := ih
    simp only [unattempted_concat, firstAttempt_concat, after_concat]
    constructor
    · rintro ⟨silent, idle⟩
      obtain ⟨pending, nothing⟩ := before silent
      by_cases waits : action = .wait
      · rw [waits, received_concat_wait, step_wait_of_pending pending, nothing]
        exact ⟨pending, rfl⟩
      · rw [completion_of_idle idle waits, received_concat_of_ne waits]
        exact ⟨pending, nothing⟩
    · rintro result later (⟨rfl, silent, attempts⟩ | ⟨earlier, rfl, first⟩)
      · obtain ⟨pending, nothing⟩ := before silent
        have waits : action ≠ .wait := by
          rintro rfl
          cases attempts
        rw [completion_of_attempts attempts, pending, received_concat_of_ne waits]
        exact ⟨fun _ => ⟨rfl, nothing⟩, nofun⟩
      · obtain ⟨untaken, taken⟩ := behind result earlier first
        by_cases waits : action = .wait
        · subst waits
          refine ⟨fun never => absurd List.mem_concat_self never, fun _ => ?_⟩
          rw [received_concat_wait]
          by_cases waited : .wait ∈ earlier
          · obtain ⟨collected, n, received⟩ := taken waited
            rw [step_wait_of_collected collected, received]
            exact ⟨rfl, n + 1, by rw [List.replicate_succ']; rfl⟩
          · obtain ⟨finished, nothing⟩ := untaken waited
            rw [step_wait_of_finished finished, nothing]
            exact ⟨rfl, 0, rfl⟩
        · have same : .wait ∈ earlier ++ [action] ↔ .wait ∈ earlier := by
            rw [List.mem_append, List.mem_singleton, or_iff_left (Ne.symm waits)]
          have finished : (after history).completion.isFinished = true :=
            isFinished_of_told (fun never => (untaken never).1) fun waited => (taken waited).1
          rw [same, completion_of_finished finished waits, received_concat_of_ne waits]
          exact ⟨untaken, taken⟩

/-! ### The whole history -/

theorem isFinished_iff (history : List (Action α)) :
    (after history).completion.isFinished = true ↔ ¬ Unattempted history := by
  obtain ⟨before, behind⟩ := told_after history
  constructor
  · intro finished silent
    rw [(before silent).1] at finished
    cases finished
  · intro attempted
    obtain ⟨result, later, first⟩ := (unattempted_or_first history).resolve_left attempted
    obtain ⟨untaken, taken⟩ := behind result later first
    exact isFinished_of_told (fun never => (untaken never).1) fun waited => (taken waited).1

theorem unattempted_of_append (silent : Unattempted (history ++ more)) : Unattempted history := by
  intro before action later parts
  refine silent before action (later ++ more) ?_
  rw [parts, List.append_assoc, List.cons_append]

/-- The signal makes its attempt behind this beginning of the history. -/
def Spends (history : List (Action α)) (signal : Nat) (before : List (Action α)) : Prop :=
  ∃ action later result, history = before ++ action :: later ∧ action.signal? = some signal ∧
    Attempts before action result

theorem spends_concat {before : List (Action α)} : Spends (history ++ [action]) signal before ↔
    (before = history ∧ action.signal? = some signal ∧ Armed history signal) ∨ Spends history signal before := by
  unfold Spends
  simp only [concat_eq_append_cons_iff]
  constructor
  · rintro ⟨one, later, result, ⟨rfl, rfl, rfl⟩ | ⟨rest, rfl, rfl⟩, uses, attempts⟩
    · exact .inl ⟨rfl, uses, (exists_attempts_iff uses).mp ⟨result, attempts⟩⟩
    · exact .inr ⟨one, rest, result, rfl, uses, attempts⟩
  · rintro (⟨rfl, uses, armed⟩ | ⟨one, rest, result, rfl, uses, attempts⟩)
    · obtain ⟨result, attempts⟩ := (exists_attempts_iff uses).mpr armed
      exact ⟨action, [], result, .inl ⟨rfl, rfl, rfl⟩, uses, attempts⟩
    · exact ⟨one, rest ++ [action], result, .inr ⟨rest, rfl, rfl⟩, uses, attempts⟩

/-- A signal that is gone made one attempt, and one that is not made none. -/
theorem spends_after (history : List (Action α)) (signal : Nat) :
    (Gone history signal → ∃! before, Spends history signal before) ∧
      ∀ before, Spends history signal before → Gone history signal := by
  induction history using List.reverseRecOn with
  | nil =>
    constructor
    · rintro ⟨later, ⟨before, parts, -⟩, -⟩
      simp at parts
    · rintro before ⟨action, later, result, parts, -⟩
      simp at parts
  | append_singleton history action ih =>
    obtain ⟨once, gone⟩ := ih
    simp only [gone_concat, spends_concat]
    constructor
    · rintro (earlier | ⟨armed, uses⟩)
      · obtain ⟨before, spends, unique⟩ := once earlier
        refine ⟨before, .inr spends, ?_⟩
        rintro other (⟨-, -, armed⟩ | spends)
        · exact absurd armed (not_armed_of_gone earlier)
        · exact unique other spends
      · refine ⟨history, .inl ⟨rfl, uses, armed⟩, ?_⟩
        rintro other (⟨rfl, -, -⟩ | spends)
        · rfl
        · exact absurd armed (not_armed_of_gone (gone other spends))
    · rintro before (⟨rfl, uses, armed⟩ | spends)
      · exact .inr ⟨armed, uses⟩
      · exact .inl (gone before spends)

/-- A signal that is gone made an attempt. -/
theorem attempted_of_gone (gone : Gone history signal) : ¬ Unattempted history := by
  obtain ⟨before, ⟨action, later, result, parts, -, attempts⟩, -⟩ := (spends_after history signal).1 gone
  exact fun silent => silent before action later parts result attempts

end

/-- What is true of a completion and its signals after a history, and of what is done next. -/
structure Completes (history : List (Action α)) : Prop where
  /-- Who finishes is told that it counts if it is the first attempt, and that it does not otherwise. -/
  counted : ∀ result, ∃ first, ((after history).step (.finish result)).1 = .counted first ∧
    (first = true ↔ Unattempted history)
  /-- The first attempt, whoever makes it, leaves its result; later ones change nothing. -/
  effective : ∀ action result, Attempts history action result →
    (Unattempted history → ((after history).step action).2.completion = .finished result) ∧
      (¬ Unattempted history → ((after history).step action).2.completion = (after history).completion)
  /-- A signal that was finished or dropped has made one attempt, and one that was not has made none. -/
  spent : ∀ signal, (Gone history signal → ∃! before, Spends history signal before) ∧
    (Armed history signal → ∀ before, ¬ Spends history signal before)
  /-- A signal that is used up is no attempt any more. -/
  mute : ∀ signal, Gone history signal → ∀ action, action.signal? = some signal →
    ∀ result, ¬ Attempts history action result
  shown : (after history).completion.isFinished = true ↔ ¬ Unattempted history
  lasting : (after history).completion.isFinished = true →
    ∀ more, (after (history ++ more)).completion.isFinished = true
  /-- A wait ends just if the completion is finished, and a wait that does not end changes nothing. -/
  enabled : ((after history).step .wait).1 = .blocked ↔ (after history).completion.isFinished = false
  unchanged : (after history).completion.isFinished = false → ((after history).step .wait).2 = after history
  /-- Behind the first attempt, the first wait gets its result and the others find it cancelled. -/
  delivered : ∀ result later, FirstAttempt history result later →
    (.wait ∉ later → ((after history).step .wait).1 = .result result ∧ fresh.received history = []) ∧
      (.wait ∈ later → ((after history).step .wait).1 = .result (.error .cancelled) ∧
        ∃ n, fresh.received history = result :: List.replicate n (.error .cancelled))
  undelivered : Unattempted history → fresh.received history = []
  /-- Once a signal is gone no wait is blocked. -/
  freed : ∀ signal, Gone history signal → ((after history).step .wait).1 ≠ .blocked

theorem blocked_iff (r : Rendezvous α) : (r.step .wait).1 = .blocked ↔ r.completion.isFinished = false := by
  cases state : r.completion with
  | pending => simp [step_wait_of_pending state, Completion.isFinished]
  | finished result => simp [step_wait_of_finished state, Completion.isFinished]
  | collected => simp [step_wait_of_collected state, Completion.isFinished]

theorem completes (history : List (Action α)) : Completes history := by
  obtain ⟨before, behind⟩ := told_after history
  have shown := isFinished_iff history
  have enabled := blocked_iff (after history)
  exact {
    counted := by
      intro result
      refine ⟨((after history).completion.finish result).1, rfl, ?_⟩
      by_cases silent : Unattempted history
      · rw [(before silent).1]
        exact iff_of_true rfl silent
      · rw [finish_of_finished (shown.mpr silent)]
        exact iff_of_false nofun silent
    effective := by
      intro action result attempts
      rw [completion_of_attempts attempts]
      constructor
      · intro silent
        rw [(before silent).1]
        rfl
      · intro attempted
        rw [finish_of_finished (shown.mpr attempted)]
    spent := fun signal => ⟨(spends_after history signal).1, fun armed earlier spends =>
      not_armed_of_gone ((spends_after history signal).2 earlier spends) armed⟩
    mute := by
      intro signal gone action uses result attempts
      exact not_armed_of_gone gone ((exists_attempts_iff uses).mp ⟨result, attempts⟩)
    shown := shown
    lasting := by
      intro finished more
      rw [isFinished_iff] at finished ⊢
      exact fun silent => finished (unattempted_of_append silent)
    enabled := enabled
    unchanged := by
      intro unfinished
      have pending : (after history).completion = .pending := by
        cases state : (after history).completion with
        | pending => rfl
        | _ =>
          rw [state] at unfinished
          cases unfinished
      rw [step_wait_of_pending pending]
    delivered := by
      intro result later first
      obtain ⟨untaken, taken⟩ := behind result later first
      constructor
      · intro never
        rw [step_wait_of_finished (untaken never).1]
        exact ⟨rfl, (untaken never).2⟩
      · intro waited
        rw [step_wait_of_collected (taken waited).1]
        exact ⟨rfl, (taken waited).2⟩
    undelivered := fun silent => (before silent).2
    freed := by
      intro signal gone blocked
      rw [enabled, Bool.eq_false_iff, Ne, shown] at blocked
      exact blocked (attempted_of_gone gone) }

/-- A signal is finished before it is dropped, and nobody else comes in time. -/
example : (fresh : Rendezvous Nat).received
    [.wait, .makeSignal, .finishSignal 0 (.ok 7), .dropSignal 0, .finish (.ok 8), .wait, .wait] =
      [.ok 7, .error .cancelled] := rfl

end HttpExchange.Rendezvous
