import HttpExchange.Client.Monitor
import HttpExchange.Proofs.Client.Rendezvous

/-!
Threads that share a completion. In whatever order they get the lock, what they see is what the history of their
actions tells, and no caller sleeps behind an attempt but one who is about to be woken.
-/
namespace HttpExchange

/-- The flag and the value of a completion. -/
def Completion.slot {α : Type} : Completion α → Slot α
  | pending => ⟨false, none⟩
  | finished result => ⟨true, some result⟩
  | collected => ⟨true, none⟩

namespace Completion
variable {α : Type}

theorem slot_finish (c : Completion α) (result : Except Failure α) :
    c.slot.finish result = ((c.finish result).1, (c.finish result).2.slot) := by
  cases c <;> rfl

theorem finished_slot (c : Completion α) : c.slot.finished = c.isFinished := by
  cases c <;> rfl

/-- Who finds the flag set takes what the wait gives. -/
theorem slot_take {c : Completion α} (finished : c.isFinished = true) :
    ∃ d, c.wait? = some (c.slot.take.1, d) ∧ c.slot.take.2 = d.slot := by
  cases c with
  | pending => cases finished
  | finished result => exact ⟨collected, rfl, rfl⟩
  | collected => exact ⟨collected, rfl, rfl⟩

theorem wait?_of_unfinished {c : Completion α} (unfinished : c.isFinished = false) : c.wait? = none := by
  cases c with
  | pending => rfl
  | _ => cases unfinished

end Completion

namespace Monitor
variable {α : Type}

/-- The monitor is what the history of actions tells, and has a notice on its way for every caller who sleeps though
the flag is set. -/
structure Tallies (m : Monitor α) (history : List (Rendezvous.Action α)) : Prop where
  slot : m.slot = (Rendezvous.after history).completion.slot
  signals : m.signals = (Rendezvous.after history).signals
  results : (m.waiters.filterMap Waiter.result?).Perm (Rendezvous.fresh.received history)
  asleep : ∀ i : Nat, m.waiters[i]? = some .asleep → m.slot.finished = true → 0 < m.notices

theorem result?_woken (waiter : Waiter α) : waiter.woken.result? = waiter.result? := by
  cases waiter <;> rfl

theorem woken_ne_asleep (waiter : Waiter α) : waiter.woken ≠ .asleep := by
  cases waiter <;> nofun

theorem results_map_woken (waiters : List (Waiter α)) :
    (waiters.map Waiter.woken).filterMap Waiter.result? = waiters.filterMap Waiter.result? := by
  rw [List.filterMap_map]
  exact List.filterMap_congr fun waiter _ => result?_woken waiter

theorem results_modify_woken (waiters : List (Waiter α)) (i : Nat) :
    (waiters.modify i Waiter.woken).filterMap Waiter.result? = waiters.filterMap Waiter.result? := by
  have same : (waiters.modify i Waiter.woken).map Waiter.result? = waiters.map Waiter.result? := by
    refine List.ext_getElem? fun j => ?_
    rw [List.getElem?_map, List.getElem?_map, List.getElem?_modify]
    rcases waiters[j]? with _ | waiter
    · rfl
    · by_cases here : i = j
      · simp [here, result?_woken]
      · simp [here]
  have gathered (waiters : List (Waiter α)) :
      waiters.filterMap Waiter.result? = (waiters.map Waiter.result?).filterMap id := by
    rw [List.filterMap_map]
    rfl
  rw [gathered, same, ← gathered]

/-- A caller who goes with a result adds it to those of the others. -/
theorem results_set {waiters : List (Waiter α)} {i : Nat} (looks : waiters[i]? = some .looking) (waiter : Waiter α) :
    ((waiters.set i waiter).filterMap Waiter.result?).Perm
      (waiter.result?.toList ++ waiters.filterMap Waiter.result?) := by
  obtain ⟨others, before, after⟩ := Replacement.perm_set looks waiter
  have gathered := after.filterMap Waiter.result?
  have previous := before.filterMap Waiter.result?
  cases result : waiter.result? with
  | none =>
    rw [List.filterMap_cons_none result] at gathered
    exact gathered.trans previous.symm
  | some given =>
    rw [List.filterMap_cons_some result] at gathered
    exact gathered.trans (previous.symm.cons given)

namespace Tallies
variable {m : Monitor α} {history : List (Rendezvous.Action α)}

theorem fresh : Tallies (Monitor.fresh : Monitor α) [] where
  slot := rfl
  signals := rfl
  results := .nil
  asleep := nofun

/-- An attempt is one in the history, whoever makes it. -/
theorem attempt (tallies : Tallies m history) (action : Rendezvous.Action α) (waits : action ≠ .wait)
    {result : Except Failure α} {signals : List Signal}
    (told : ((Rendezvous.after history).step action).2 =
      ⟨((Rendezvous.after history).completion.finish result).2, signals⟩) :
    Tallies { m.attempt result with signals } (history ++ [action]) where
  slot := by
    rw [Rendezvous.after_concat, told, Monitor.attempt, tallies.slot, Completion.slot_finish]
  signals := by
    rw [Rendezvous.after_concat, told]
  results := by
    rw [Rendezvous.received_concat_of_ne waits]
    exact tallies.results
  asleep := by
    intro i sleeps set
    unfold Monitor.attempt at set sleeps ⊢
    cases flag : m.slot.finished with
    | true =>
      have due := tallies.asleep i sleeps flag
      simp only [Slot.finish, flag]
      exact due
    | false =>
      simp only [Slot.finish, flag]
      exact Nat.succ_pos _

theorem spend (tallies : Tallies m history) (action : Rendezvous.Action α) (waits : action ≠ .wait) {signal : Nat}
    {result : Except Failure α}
    (told : ((Rendezvous.after history).step action).2 = (Rendezvous.after history).attempt signal result) :
    Tallies (m.spend signal result) (history ++ [action]) := by
  unfold Monitor.spend
  rw [tallies.signals]
  by_cases armed : (Rendezvous.after history).signals[signal]? = some .armed
  · rw [if_pos armed]
    rw [Rendezvous.attempt, if_pos armed] at told
    exact tallies.attempt action waits told
  · rw [if_neg armed]
    rw [Rendezvous.attempt_of_unarmed armed] at told
    have same : Rendezvous.after (history ++ [action]) = Rendezvous.after history := by
      rw [Rendezvous.after_concat, told]
    exact {
      slot := by rw [same, tallies.slot]
      signals := by rw [same, tallies.signals]
      results := by
        rw [Rendezvous.received_concat_of_ne waits]
        exact tallies.results
      asleep := tallies.asleep }

/-- A caller who finds the flag set goes with what the wait of the history gets. -/
theorem take (tallies : Tallies m history) {i : Nat} (looks : m.waiters[i]? = some .looking)
    (set : m.slot.finished = true) :
    Tallies { m with slot := m.slot.take.2, waiters := m.waiters.set i (.returned m.slot.take.1) }
      (history ++ [.wait]) := by
  have finished : (Rendezvous.after history).completion.isFinished = true := by
    rw [← Completion.finished_slot, ← tallies.slot, set]
  obtain ⟨left, waited, same⟩ := Completion.slot_take finished
  rw [← tallies.slot] at waited same
  have told : (Rendezvous.after history).step .wait =
      (.result m.slot.take.1, { Rendezvous.after history with completion := left }) := by
    rw [Rendezvous.step, waited]
  exact {
    slot := by rw [Rendezvous.after_concat, told, same]
    signals := by rw [Rendezvous.after_concat, told, tallies.signals]
    results := by
      rw [Rendezvous.received_concat_wait, told]
      exact (results_set looks _).trans ((tallies.results.cons _).trans (List.perm_append_singleton _ _).symm)
    asleep := by
      intro j sleeps _
      rcases Replacement.set_cases sleeps with ⟨-, ⟨⟩⟩ | ⟨-, slept⟩
      exact tallies.asleep j slept set }

/-- A caller who does not find the flag set goes to sleep, and has done nothing. -/
theorem sleep (tallies : Tallies m history) {i : Nat} (looks : m.waiters[i]? = some .looking)
    (unset : m.slot.finished = false) :
    Tallies { m with waiters := m.waiters.set i .asleep } (history ++ [.wait]) := by
  have unfinished : (Rendezvous.after history).completion.isFinished = false := by
    rw [← Completion.finished_slot, ← tallies.slot, unset]
  have told : (Rendezvous.after history).step .wait = (.blocked, Rendezvous.after history) := by
    rw [Rendezvous.step, Completion.wait?_of_unfinished unfinished]
  exact {
    slot := by rw [Rendezvous.after_concat, told, tallies.slot]
    signals := by rw [Rendezvous.after_concat, told, tallies.signals]
    results := by
      rw [Rendezvous.received_concat_wait, told]
      exact (results_set looks _).trans (tallies.results.trans (.of_eq (List.append_nil _).symm))
    asleep := by
      intro j sleeps set
      rw [unset] at set
      cases set }

/-- Whatever a thread does next, the monitor remains what the history tells. -/
theorem step (tallies : Tallies m history) (event : Event α) : Tallies (m.step event) (history ++ m.acts event) := by
  cases event with
  | finish result => exact tallies.attempt (.finish result) nofun (by rw [tallies.signals]; rfl)
  | makeSignal =>
    exact {
      slot := by
        rw [acts, Rendezvous.after_concat]
        exact tallies.slot
      signals := by
        rw [acts, Rendezvous.after_concat]
        exact congrArg (· ++ [.armed]) tallies.signals
      results := by
        have waits : (Rendezvous.Action.makeSignal : Rendezvous.Action α) ≠ .wait := nofun
        rw [acts, Rendezvous.received_concat_of_ne waits]
        exact tallies.results
      asleep := tallies.asleep }
  | finishSignal signal result => exact tallies.spend (.finishSignal signal result) nofun rfl
  | dropSignal signal => exact tallies.spend (.dropSignal signal) nofun rfl
  | notify =>
    rw [acts, List.append_nil, Monitor.step]
    split_ifs
    · exact tallies
    · exact {
        slot := tallies.slot
        signals := tallies.signals
        results := by
          rw [results_map_woken]
          exact tallies.results
        asleep := by
          intro i sleeps
          rw [List.getElem?_map, Option.map_eq_some_iff] at sleeps
          obtain ⟨waiter, -, sleeps⟩ := sleeps
          exact absurd sleeps (woken_ne_asleep waiter) }
  | arrive =>
    rw [acts, List.append_nil]
    exact {
      slot := tallies.slot
      signals := tallies.signals
      results := by
        rw [Monitor.step, List.filterMap_append]
        exact (List.append_nil _).symm ▸ tallies.results
      asleep := by
        intro i sleeps
        rcases Replacement.concat_cases sleeps with ⟨-, slept⟩ | ⟨-, ⟨⟩⟩
        exact tallies.asleep i slept }
  | look waiter =>
    rw [acts, Monitor.step]
    rcases found : m.waiters[waiter]? with _ | _ | _ | _
    · exact (List.append_nil _).symm ▸ tallies
    · by_cases set : m.slot.finished = true
      · simp only [if_pos set]
        exact tallies.take found set
      · simp only [if_neg set]
        exact tallies.sleep found (Bool.eq_false_iff.mpr set)
    · exact (List.append_nil _).symm ▸ tallies
    · exact (List.append_nil _).symm ▸ tallies
  | stir waiter =>
    rw [acts, List.append_nil]
    exact {
      slot := tallies.slot
      signals := tallies.signals
      results := by
        rw [Monitor.step, results_modify_woken]
        exact tallies.results
      asleep := by
        intro i sleeps
        rw [Monitor.step, List.getElem?_modify] at sleeps
        obtain ⟨old, there, sleeps⟩ := Option.map_eq_some_iff.mp sleeps
        split_ifs at sleeps
        · exact absurd sleeps (woken_ne_asleep old)
        · exact tallies.asleep i (sleeps ▸ there) }

end Tallies

theorem run_concat (events : List (Event α)) (event : Event α) : run (events ++ [event]) = (run events).step event :=
  List.foldl_append

theorem history_concat (m : Monitor α) (events : List (Event α)) (event : Event α) :
    m.history (events ++ [event]) = m.history events ++ (events.foldl step m).acts event := by
  induction events generalizing m with
  | nil => simp [history]
  | cons first rest ih =>
    rw [List.cons_append, history, ih, history, List.append_assoc]
    rfl

theorem tallies_run (events : List (Event α)) : Tallies (run events) (fresh.history events) := by
  induction events using List.reverseRecOn with
  | nil => exact .fresh
  | append_singleton events event ih =>
    rw [run_concat, history_concat]
    exact ih.step event

/-- The caller has gone with a result, or goes with one after a notice as soon as he looks. -/
def Released (m : Monitor α) (waiter : Nat) : Prop :=
  ∃ result, m.waiters[waiter]? = some (.returned result) ∨
    ((m.step .notify).step (.look waiter)).waiters[waiter]? = some (.returned result)

/-- Behind an attempt nobody is stuck: who sleeps is woken, and who looks goes. -/
theorem Tallies.released {m : Monitor α} {history : List (Rendezvous.Action α)} (tallies : Tallies m history)
    (set : m.slot.finished = true) {i : Nat} {waiter : Waiter α} (there : m.waiters[i]? = some waiter) :
    m.Released i := by
  obtain ⟨inside, -⟩ := List.getElem?_eq_some_iff.mp there
  have goes {n : Monitor α} (flag : n.slot.finished = true) (looks : n.waiters[i]? = some .looking) :
      (n.step (.look i)).waiters[i]? = some (.returned n.slot.take.1) := by
    obtain ⟨within, -⟩ := List.getElem?_eq_some_iff.mp looks
    rw [Monitor.step, looks]
    simp only [if_pos flag]
    exact List.getElem?_set_self within
  -- With no notice due nobody sleeps; otherwise the next notice wakes him.
  by_cases due : m.notices = 0
  · have unnoticed : m.step .notify = m := if_pos due
    cases waiter with
    | looking => exact ⟨_, .inr (by rw [unnoticed]; exact goes set there)⟩
    | asleep =>
      have := tallies.asleep i there set
      omega
    | returned result => exact ⟨result, .inl there⟩
  · have noticed : m.step .notify = { m with notices := m.notices - 1, waiters := m.waiters.map Waiter.woken } :=
      if_neg due
    have woken : (m.waiters.map Waiter.woken)[i]? = some waiter.woken := by
      rw [List.getElem?_map, there, Option.map_some]
    cases waiter with
    | looking => exact ⟨_, .inr (by rw [noticed]; exact goes set woken)⟩
    | asleep => exact ⟨_, .inr (by rw [noticed]; exact goes set woken)⟩
    | returned result => exact ⟨result, .inl there⟩

/-- What threads that share a completion come to, the order of their steps being this. -/
structure Attended (events : List (Event α)) : Prop where
  /-- Flag, value, signals and the results of the callers are as the history of actions has them. -/
  tallies : Tallies (run events) (fresh.history events)
  /-- The flag is set once an attempt was made. -/
  flagged : (run events).slot.finished = true ↔ ¬ Rendezvous.Unattempted (fresh.history events)
  /-- Who takes the lock to finish sets the flag just if nobody has done so. -/
  counted : ∀ result, ((run events).slot.finish result).1 = true ↔ Rendezvous.Unattempted (fresh.history events)
  /-- A signal is spent once it was finished or dropped. -/
  spent : ∀ signal : Nat, (run events).signals[signal]? = some .spent ↔ Rendezvous.Gone (fresh.history events) signal
  /-- Of the callers who have gone, one has the result of the first attempt. -/
  shared : ∀ result later, Rendezvous.FirstAttempt (fresh.history events) result later →
    ((run events).waiters.filterMap Waiter.result? = []) ∨
      ∃ n, ((run events).waiters.filterMap Waiter.result?).Perm (result :: List.replicate n (.error .cancelled))
  /-- Once a signal is spent, no caller is stuck. -/
  freed : ∀ signal waiter : Nat, (run events).signals[signal]? = some .spent → waiter < (run events).waiters.length →
    (run events).Released waiter

theorem attended (events : List (Event α)) : Attended events := by
  have tallies := tallies_run events
  have signals := (Rendezvous.signals_after (fresh.history events)).2
  have flagged : (run events).slot.finished = true ↔ ¬ Rendezvous.Unattempted (fresh.history events) := by
    rw [tallies.slot, Completion.finished_slot, Rendezvous.isFinished_iff]
  have spent (signal : Nat) :
      (run events).signals[signal]? = some .spent ↔ Rendezvous.Gone (fresh.history events) signal := by
    rw [tallies.signals, (signals signal).2]
  exact {
    tallies := tallies
    flagged := flagged
    counted := by
      intro result
      by_cases set : (run events).slot.finished = true
      · rw [Slot.finish, if_pos set]
        exact iff_of_false nofun (flagged.mp set)
      · rw [Slot.finish, if_neg set]
        exact iff_of_true rfl (not_not.mp fun attempted => set (flagged.mpr attempted))
    spent := spent
    shared := by
      intro result later first
      obtain ⟨untaken, taken⟩ := (Rendezvous.told_after (fresh.history events)).2 result later first
      by_cases waited : .wait ∈ later
      · obtain ⟨-, n, received⟩ := taken waited
        exact .inr ⟨n, tallies.results.trans (.of_eq received)⟩
      · have nothing := tallies.results.trans (.of_eq (untaken waited).2)
        exact .inl nothing.eq_nil
    freed := by
      intro signal waiter gone inside
      have set := flagged.mpr (Rendezvous.attempted_of_gone ((spent signal).mp gone))
      exact tallies.released set (List.getElem?_eq_getElem inside) }

/-- A completion finishes once, whatever is done to it and to its signals and in whatever order, and the threads that
share it see nothing else. -/
theorem completed_once : (∀ history : List (Rendezvous.Action α), Rendezvous.Completes history) ∧
    ∀ events : List (Event α), Attended events :=
  ⟨Rendezvous.completes, attended⟩

/-- A caller sleeps, is stirred for nothing, sleeps again, and is woken when the signal is dropped. -/
example : (run [.makeSignal, .arrive, .look 0, .stir 0, .look 0, .dropSignal 0, .notify, .look 0] :
    Monitor Nat).waiters = [.returned (.error .cancelled)] := rfl

end Monitor
end HttpExchange
