import HttpExchange.Proofs.Replacement
import HttpExchange.Server.Workers

/-!
What becomes of the items that workers share, and of the sign that stops the workers. In every interleaving the
items leave the queue in the order of their arrival, and each of them is in one place. There is no sign to stop
before it is given and just one from then on, in the queue or in the hands of a worker who is about to put it back,
so nobody is left behind.
-/
namespace HttpExchange

namespace Worker
variable {α : Type}

/-- The item in a worker's hands. -/
def item? : Worker α → Option α
  | handling item => some item
  | _ => none

/-- The worker has taken the sign to stop and did not put it back yet. -/
def holdsSign : Worker α → Bool
  | leaving => true
  | _ => false

end Worker

/-- The number of signs to stop that were given. -/
def Closing.signs : Closing → Nat
  | running | cleared => 0
  | signalled | joined => 1

namespace Workers
variable {α : Type} {w w' : Workers α} {action : Action α}

/-! ### What happened -/

/-- The items in the hands of workers. -/
def inHands (w : Workers α) : List α := w.workers.flatMap fun worker => worker.item?.toList

/-- The number of workers who hold the sign to stop. -/
def signsHeld (w : Workers α) : Nat := w.workers.countP Worker.holdsSign

/-- The item that an action puts into the queue. -/
def Action.offered? : Action α → Option α
  | enqueue item => some item
  | _ => none

/-- The items that actions put into the queue, in turn. -/
def offered (actions : List (Action α)) : List α := actions.filterMap Action.offered?

/-- The item that an action takes out of the queue. -/
def taken? (w : Workers α) : Action α → Option α
  | .take i =>
    match w.workers[i]?, w.queue.dequeue? with
    | some .waiting, some (entry, _) => entry
    | _, _ => none
  | _ => none

/-- What an action leaves; one that is not possible changes nothing. -/
def after (w : Workers α) (action : Action α) : Workers α := (w.step? action).getD w

/-- The items that actions take out of the queue, in turn. -/
def taken (w : Workers α) : List (Action α) → List α
  | [] => []
  | action :: rest => (w.taken? action).toList ++ (w.after action).taken rest

@[simp] theorem run_nil (w : Workers α) : w.run [] = w := rfl

theorem run_cons (w : Workers α) (action : Action α) (rest : List (Action α)) :
    w.run (action :: rest) = (w.after action).run rest := rfl

theorem run_append (w : Workers α) (first second : List (Action α)) :
    w.run (first ++ second) = (w.run first).run second := List.foldl_append

theorem offered_cons (action : Action α) (rest : List (Action α)) :
    offered (action :: rest) = action.offered?.toList ++ offered rest := by
  rw [offered, List.filterMap_cons]
  cases action.offered? <;> rfl

/-! ### One action -/

/-- All that an action can do. -/
inductive Step (w : Workers α) : Action α → Workers α → Prop
  | enqueue (item : α) : Step w (.enqueue item) { w with queue := w.queue.enqueue item }
  | take {i : Nat} {item : α} {queue : Queue α} (waits : w.workers[i]? = some .waiting)
      (first : w.queue.dequeue? = some (some item, queue)) :
      Step w (.take i) { w.become i (.handling item) with queue }
  | takeSign {i : Nat} {queue : Queue α} (waits : w.workers[i]? = some .waiting)
      (first : w.queue.dequeue? = some (none, queue)) : Step w (.take i) { w.become i .leaving with queue }
  | finish {i : Nat} {item : α} (handles : w.workers[i]? = some (.handling item)) :
      Step w (.finish i) { w.become i .waiting with handled := w.handled ++ [item] }
  | leave {i : Nat} (leaves : w.workers[i]? = some .leaving) :
      Step w (.leave i) { w.become i .gone with queue := w.queue.push none }
  | clear (running : w.closing = .running) :
      Step w .clear { w with queue := .empty, closing := .cleared, dropped := w.dropped ++ w.queue.items }
  | signal (cleared : w.closing = .cleared) :
      Step w .signal { w with queue := w.queue.push none, closing := .signalled }
  | join (signalled : w.closing = .signalled) (gone : w.allGone = true) : Step w .join { w with closing := .joined }

theorem step_of_step? (possible : w.step? action = some w') : Step w action w' := by
  cases action with
  | enqueue item =>
    cases possible
    exact .enqueue item
  | take i =>
    simp only [step?] at possible
    split at possible
    · cases possible
      exact .take ‹_› ‹_›
    · cases possible
      exact .takeSign ‹_› ‹_›
    · cases possible
  | finish i =>
    simp only [step?] at possible
    split at possible
    · cases possible
      exact .finish ‹_›
    · cases possible
  | leave i =>
    simp only [step?] at possible
    split at possible
    · cases possible
      exact .leave ‹_›
    · cases possible
  | clear =>
    simp only [step?] at possible
    split at possible
    · cases possible
      exact .clear ‹_›
    · cases possible
  | signal =>
    simp only [step?] at possible
    split at possible
    · cases possible
      exact .signal ‹_›
    · cases possible
  | join =>
    simp only [step?] at possible
    split at possible
    · rename_i ready
      cases possible
      exact .join ready.1 ready.2
    · cases possible

theorem allGone_iff : w.allGone = true ↔ ∀ worker ∈ w.workers, worker = .gone := by
  rw [allGone, List.all_eq_true]
  refine forall₂_congr fun worker _ => ?_
  cases worker <;> simp

theorem idle_of_step?_none (impossible : w.step? action = none) :
    action.offered? = none ∧ w.taken? action = none := by
  cases action with
  | enqueue item => cases impossible
  | take i =>
    refine ⟨rfl, ?_⟩
    cases taken : w.taken? (.take i) with
    | none => rfl
    | some item =>
      simp only [taken?] at taken
      split at taken
      · rename_i entry queue waits first
        subst taken
        simp only [step?, waits, first, reduceCtorEq] at impossible
      · cases taken
  | finish i => exact ⟨rfl, rfl⟩
  | leave i => exact ⟨rfl, rfl⟩
  | clear => exact ⟨rfl, rfl⟩
  | signal => exact ⟨rfl, rfl⟩
  | join => exact ⟨rfl, rfl⟩

theorem inHands_become {i : Nat} {old : Worker α} (found : w.workers[i]? = some old) (new : Worker α) :
    (old.item?.toList ++ (w.become i new).inHands).Perm (new.item?.toList ++ w.inHands) :=
  Replacement.flatMap_set found new fun worker => worker.item?.toList

theorem signsHeld_become {i : Nat} {old : Worker α} (found : w.workers[i]? = some old) (new : Worker α) :
    (w.become i new).signsHeld + (if old.holdsSign then 1 else 0) =
      w.signsHeld + if new.holdsSign then 1 else 0 :=
  Replacement.countP_set found new Worker.holdsSign

theorem taken?_take {i : Nat} {entry : Option α} {queue : Queue α} (waits : w.workers[i]? = some .waiting)
    (first : w.queue.dequeue? = some (entry, queue)) : w.taken? (.take i) = entry := by
  simp only [taken?, waits, first]

namespace Step

/-- The queue passes items on in the order of their arrival, unless it is cleared. -/
theorem queue_cases (step : Step w action w') :
    (w'.dropped = w.dropped ∧
        w.queue.items ++ action.offered?.toList = (w.taken? action).toList ++ w'.queue.items ∧
        (w'.closing = .running → w.closing = .running)) ∨
      (w.closing = .running ∧ w'.closing = .cleared ∧ action.offered? = none ∧ w.taken? action = none ∧
        w'.dropped = w.dropped ++ w.queue.items ∧ w'.queue.items = []) := by
  cases step with
  | enqueue item => exact .inl ⟨rfl, (Queue.items_enqueue w.queue item).symm, id⟩
  | take waits first =>
    rw [taken?_take waits first, Queue.items_of_dequeue? first]
    exact .inl ⟨rfl, List.append_nil _, id⟩
  | takeSign waits first =>
    rw [taken?_take waits first, Queue.items_of_dequeue? first]
    exact .inl ⟨rfl, List.append_nil _, id⟩
  | finish handles => exact .inl ⟨rfl, List.append_nil _, id⟩
  | leave leaves => exact .inl ⟨rfl, (List.append_nil _).trans (Queue.items_push_none w.queue).symm, id⟩
  | clear running => exact .inr ⟨running, rfl, rfl, rfl, rfl, rfl⟩
  | signal cleared =>
    refine .inl ⟨rfl, (List.append_nil _).trans (Queue.items_push_none w.queue).symm, fun running => ?_⟩
    cases running
  | join signalled gone =>
    refine .inl ⟨rfl, List.append_nil _, fun running => ?_⟩
    cases running

/-- What is taken comes into somebody's hands, and stays there until it is handled. -/
theorem hands (step : Step w action w') :
    ((w.taken? action).toList ++ (w.inHands ++ w.handled)).Perm (w'.inHands ++ w'.handled) := by
  cases step with
  | @take i item queue waits first =>
    have hands := inHands_become waits (.handling item)
    rw [taken?_take waits first, ← List.append_assoc]
    exact hands.symm.append_right w.handled
  | takeSign waits first =>
    have hands := inHands_become waits .leaving
    rw [taken?_take waits first]
    exact hands.symm.append_right w.handled
  | @finish i item handles =>
    have hands := inHands_become handles .waiting
    have moved : (w.inHands ++ w.handled).Perm ((w.become i .waiting).inHands ++ [item] ++ w.handled) :=
      (hands.symm.trans List.perm_append_comm).append_right w.handled
    refine moved.trans ?_
    rw [List.append_assoc]
    exact List.perm_append_comm.append_left _
  | leave leaves =>
    have hands := inHands_become leaves .gone
    exact hands.symm.append_right w.handled
  | enqueue item => exact .refl _
  | clear running => exact .refl _
  | signal cleared => exact .refl _
  | join signalled gone => exact .refl _

/-- What was handled or dropped remains so. -/
theorem remains (step : Step w action w') :
    (∀ item ∈ w.handled, item ∈ w'.handled) ∧ ∀ item ∈ w.dropped, item ∈ w'.dropped := by
  cases step with
  | finish handles => exact ⟨fun item => List.mem_append_left _, fun item => id⟩
  | clear running => exact ⟨fun item => id, fun item => List.mem_append_left _⟩
  | enqueue item => exact ⟨fun item => id, fun item => id⟩
  | take waits first => exact ⟨fun item => id, fun item => id⟩
  | takeSign waits first => exact ⟨fun item => id, fun item => id⟩
  | leave leaves => exact ⟨fun item => id, fun item => id⟩
  | signal cleared => exact ⟨fun item => id, fun item => id⟩
  | join signalled gone => exact ⟨fun item => id, fun item => id⟩

/-- The sign to stop is given once, and whoever takes it puts it back. -/
theorem signs (step : Step w action w') (counted : w.queue.signs + w.signsHeld = w.closing.signs) :
    w'.queue.signs + w'.signsHeld = w'.closing.signs := by
  cases step with
  | enqueue item => rwa [Queue.signs_enqueue]
  | @take i item queue waits first =>
    have held := signsHeld_become waits (.handling item)
    have left := Queue.signs_of_dequeue? first
    simp only [Worker.holdsSign, Option.isNone_some, Bool.false_eq_true, if_false] at held left
    show queue.signs + (w.become i (.handling item)).signsHeld = w.closing.signs
    omega
  | @takeSign i queue waits first =>
    have held := signsHeld_become waits .leaving
    have left := Queue.signs_of_dequeue? first
    simp only [Worker.holdsSign, Option.isNone_none, Bool.false_eq_true, if_false, if_true] at held left
    show queue.signs + (w.become i .leaving).signsHeld = w.closing.signs
    omega
  | @finish i item handles =>
    have held := signsHeld_become handles .waiting
    simp only [Worker.holdsSign, Bool.false_eq_true, if_false] at held
    show w.queue.signs + (w.become i .waiting).signsHeld = w.closing.signs
    omega
  | @leave i leaves =>
    have held := signsHeld_become leaves .gone
    simp only [Worker.holdsSign, Bool.false_eq_true, if_false, if_true] at held
    show (w.queue.push none).signs + (w.become i .gone).signsHeld = w.closing.signs
    rw [Queue.signs_push_none]
    omega
  | clear running =>
    rw [running] at counted
    have none : w.queue.signs + w.signsHeld = 0 := counted
    show (Queue.empty : Queue α).signs + w.signsHeld = 0
    rw [Queue.signs_empty]
    omega
  | signal cleared =>
    rw [cleared] at counted
    have none : w.queue.signs + w.signsHeld = 0 := counted
    show (w.queue.push Option.none).signs + w.signsHeld = 1
    rw [Queue.signs_push_none]
    omega
  | join signalled gone =>
    rw [signalled] at counted
    exact counted

theorem crew (step : Step w action w') : w'.workers.length = w.workers.length := by
  cases step <;> simp [become]

/-- Where everybody has left, nobody does anything any more. -/
theorem joined (step : Step w action w') (left : w.closing = .joined → ∀ worker ∈ w.workers, worker = .gone)
    (joined : w'.closing = .joined) : ∀ worker ∈ w'.workers, worker = .gone := by
  have present : ∀ {i : Nat} {worker : Worker α}, w.workers[i]? = some worker → w.closing = .joined →
      worker = .gone := fun found joined => left joined _ (List.mem_of_getElem? found)
  cases step with
  | enqueue item => exact left joined
  | take waits first => cases present waits joined
  | takeSign waits first => cases present waits joined
  | finish handles => cases present handles joined
  | leave leaves => cases present leaves joined
  | clear running => cases joined
  | signal cleared => cases joined
  | join signalled gone => exact allGone_iff.mp gone

end Step

/-- The account of items that were put in and taken out, and of the sign to stop. -/
structure Ledger (offered taken : List α) (w : Workers α) : Prop where
  /-- What was dropped stood between what was taken before and what was taken later. -/
  order : ∃ before later, taken = before ++ later ∧ offered = before ++ w.dropped ++ later ++ w.queue.items ∧
    (w.closing = .running → w.dropped = [] ∧ later = [])
  hands : taken.Perm (w.inHands ++ w.handled)
  signs : w.queue.signs + w.signsHeld = w.closing.signs
  crew : 0 < w.workers.length
  joined : w.closing = .joined → ∀ worker ∈ w.workers, worker = .gone

namespace Ledger
variable {offered taken : List α}

theorem start (count : Nat) : Ledger [] [] (start count : Workers α) where
  order := ⟨[], [], rfl, rfl, fun _ => ⟨rfl, rfl⟩⟩
  hands := by
    have none : (Workers.start count : Workers α).inHands = [] := by
      refine List.flatMap_eq_nil_iff.mpr fun worker member => ?_
      rw [List.eq_of_mem_replicate member]
      rfl
    rw [none]
    exact .refl _
  signs := by
    have none : (Workers.start count : Workers α).signsHeld = 0 := by
      refine List.countP_eq_zero.mpr fun worker member => ?_
      rw [List.eq_of_mem_replicate member]
      exact Bool.false_ne_true
    rw [none]
    rfl
  crew := by
    rw [Workers.start, List.length_replicate]
    omega
  joined joined := by cases joined

theorem order_step (ledger : Ledger offered taken w) (step : Step w action w') :
    ∃ before later, taken ++ (w.taken? action).toList = before ++ later ∧
      offered ++ action.offered?.toList = before ++ w'.dropped ++ later ++ w'.queue.items ∧
      (w'.closing = .running → w'.dropped = [] ∧ later = []) := by
  obtain ⟨before, later, takenAs, offeredAs, untouched⟩ := ledger.order
  rcases step.queue_cases with ⟨dropped, passed, since⟩ | ⟨running, cleared, none, nothing, dropped, empty⟩
  · have offeredNow : offered ++ action.offered?.toList =
        before ++ w.dropped ++ later ++ ((w.taken? action).toList ++ w'.queue.items) := by
      rw [offeredAs, ← passed, List.append_assoc _ w.queue.items]
    by_cases running : w.closing = .running
    · obtain ⟨undropped, rfl⟩ := untouched running
      refine ⟨before ++ (w.taken? action).toList, [], by rw [takenAs]; simp, ?_, fun _ => ⟨?_, rfl⟩⟩
      · rw [offeredNow, dropped, undropped]
        simp
      · rw [dropped, undropped]
    · refine ⟨before, later ++ (w.taken? action).toList, by rw [takenAs, List.append_assoc], ?_,
        fun now => absurd (since now) running⟩
      rw [offeredNow, dropped]
      simp
  · obtain ⟨undropped, rfl⟩ := untouched running
    refine ⟨before, [], by rw [takenAs, nothing]; simp, ?_, fun now => ?_⟩
    · rw [offeredAs, none, dropped, undropped, empty]
      simp
    · rw [cleared] at now
      cases now

/-- An action keeps the account. -/
theorem step (ledger : Ledger offered taken w) (step : Step w action w') :
    Ledger (offered ++ action.offered?.toList) (taken ++ (w.taken? action).toList) w' where
  order := ledger.order_step step
  hands := by
    have moved := ledger.hands.append_right (w.taken? action).toList
    exact (moved.trans List.perm_append_comm).trans step.hands
  signs := step.signs ledger.signs
  crew := step.crew ▸ ledger.crew
  joined := step.joined ledger.joined

/-- An action that is not possible puts nothing in and takes nothing out. -/
theorem after (ledger : Ledger offered taken w) (action : Action α) :
    Ledger (offered ++ action.offered?.toList) (taken ++ (w.taken? action).toList) (w.after action) := by
  rw [Workers.after]
  cases possible : w.step? action with
  | some w' => exact ledger.step (step_of_step? possible)
  | none =>
    obtain ⟨unoffered, untaken⟩ := idle_of_step?_none possible
    rw [unoffered, untaken]
    simpa using ledger

/-- Whatever the interleaving, the account is kept. -/
theorem run (ledger : Ledger offered taken w) (actions : List (Action α)) :
    Ledger (offered ++ Workers.offered actions) (taken ++ w.taken actions) (w.run actions) := by
  induction actions generalizing w offered taken with
  | nil => simpa [Workers.offered, Workers.taken] using ledger
  | cons action rest ih =>
    have onward := ih (ledger.after action)
    rw [run_cons, offered_cons, Workers.taken, ← List.append_assoc, ← List.append_assoc]
    exact onward

end Ledger

/-! ### Nobody is left behind -/

/-- Nothing but a new item can still come where everybody has left. -/
theorem step?_joined (joined : w.closing = .joined) (gone : ∀ worker ∈ w.workers, worker = .gone)
    (unoffered : action.offered? = none) : w.step? action = none := by
  cases possible : w.step? action with
  | none => rfl
  | some w' =>
    have absent : ∀ {i : Nat} {worker : Worker α}, w.workers[i]? = some worker → worker = .gone :=
      fun found => gone _ (List.mem_of_getElem? found)
    cases step_of_step? possible with
    | enqueue item => cases unoffered
    | take waits first => cases absent waits
    | takeSign waits first => cases absent waits
    | finish handles => cases absent handles
    | leave leaves => cases absent leaves
    | clear running => cases joined.symm.trans running
    | signal cleared => cases joined.symm.trans cleared
    | join signalled gone => cases joined.symm.trans signalled

theorem run_joined (joined : w.closing = .joined) (gone : ∀ worker ∈ w.workers, worker = .gone)
    (actions : List (Action α)) (unoffered : offered actions = []) : w.run actions = w := by
  induction actions with
  | nil => rfl
  | cons action rest ih =>
    obtain ⟨first, later⟩ := List.append_eq_nil_iff.mp ((offered_cons action rest).symm.trans unoffered)
    have impossible := step?_joined joined gone (Option.toList_eq_nil_iff.mp first)
    rw [run_cons, after, impossible]
    exact ih later

theorem offered_stop (count : Nat) :
    offered ([.clear, .signal] ++ (List.range count).flatMap (fun i => [.finish i, .take i, .leave i]) ++ [.join] :
      List (Action α)) = [] := by
  refine List.filterMap_eq_nil_iff.mpr fun action member => ?_
  simp only [List.mem_append, List.mem_cons, List.mem_flatMap, List.not_mem_nil, or_false] at member
  rcases member with ((rfl | rfl) | ⟨i, -, rfl | rfl | rfl⟩) | rfl <;> rfl

theorem exists_leaving (positive : 0 < w.signsHeld) : .leaving ∈ w.workers := by
  obtain ⟨worker, member, holds⟩ := List.countP_pos_iff.mp positive
  cases worker with
  | leaving => exact member
  | waiting => cases holds
  | handling item => cases holds
  | gone => cases holds

/-- While the sign to stop is given, somebody holds it or it waits in the queue. -/
theorem Ledger.goesOn {offered taken : List α} (ledger : Ledger offered taken w) (given : w.closing.signs = 1) :
    .leaving ∈ w.workers ∨ w.queue.isEmpty = false := by
  have counted := ledger.signs
  rw [given] at counted
  by_cases held : 0 < w.signsHeld
  · exact .inl (exists_leaving held)
  · exact .inr (Queue.isEmpty_of_signs_pos (by omega))

/-- A worker who is not about to leave already finishes, takes the sign, and puts it back. -/
theorem run_round {i : Nat} {worker : Worker α} (sign : w.queue = ⟨[none]⟩) (found : w.workers[i]? = some worker)
    (stays : worker ≠ .leaving) :
    ∃ handled, w.run [.finish i, .take i, .leave i] = { w with workers := w.workers.set i .gone, handled } := by
  obtain ⟨queue, workers, closing, handled, dropped⟩ := w
  obtain ⟨inside, here⟩ := List.getElem?_eq_some_iff.mp found
  cases sign
  cases worker with
  | waiting => exact ⟨handled, by simp [run, step?, become, here, inside, Queue.dequeue?, Queue.push]⟩
  | handling item =>
    exact ⟨handled ++ [item], by simp [run, step?, become, here, inside, Queue.dequeue?, Queue.push]⟩
  | leaving => exact absurd rfl stays
  | gone =>
    have same : workers.set i .gone = workers := by rw [← here, List.set_getElem_self]
    exact ⟨handled, by simp [run, step?, here, inside, same]⟩

theorem run_rounds (sign : w.queue = ⟨[none]⟩) (stay : .leaving ∉ w.workers) {count : Nat}
    (inside : count ≤ w.workers.length) :
    ∃ handled, w.run ((List.range count).flatMap fun i => [.finish i, .take i, .leave i]) =
      { w with workers := List.replicate count .gone ++ w.workers.drop count, handled } := by
  induction count with
  | zero => exact ⟨w.handled, rfl⟩
  | succ count ih =>
    obtain ⟨handled, earlier⟩ := ih (by omega)
    have found : (List.replicate count Worker.gone ++ w.workers.drop count)[count]? = some w.workers[count] := by
      rw [List.getElem?_append_right (by simp)]
      simp
    have stays : w.workers[count] ≠ .leaving := fun leaving => stay (leaving ▸ List.getElem_mem _)
    rw [List.range_succ, List.flatMap_append, run_append, earlier, List.flatMap_singleton,
      ← Replacement.set_replicate_append_drop inside]
    exact run_round sign found stays

/-- Whoever stops the workers while they run gets to the end: they finish what they handle and leave one by one. -/
theorem closing_stop (running : w.closing = .running) (stay : .leaving ∉ w.workers) : w.stop.closing = .joined := by
  have signalled : w.run [.clear, .signal] =
      { w with queue := ⟨[none]⟩, closing := .signalled, dropped := w.dropped ++ w.queue.items } := by
    simp [run, step?, running, Queue.push, Queue.clear, Queue.empty]
  obtain ⟨handled, rounds⟩ := run_rounds (w := w.run [.clear, .signal]) (by rw [signalled])
    (by rw [signalled]; exact stay) (Nat.le_of_eq (congrArg (·.workers.length) signalled).symm)
  rw [stop, run_append, run_append, rounds, signalled]
  simp [run, step?, allGone]

/-- A worker who is there can do something unless the queue is empty and he waits for it. -/
theorem exists_step {worker : Worker α} (member : worker ∈ w.workers) (present : worker ≠ .gone)
    (busy : w.queue.isEmpty = false ∨ worker ≠ .waiting) :
    ∃ action, action.offered? = none ∧ (w.step? action).isSome := by
  obtain ⟨i, found⟩ := List.getElem?_of_mem member
  cases worker with
  | waiting =>
    obtain ⟨⟨entry, rest⟩, first⟩ := Option.isSome_iff_exists.mp
      ((Queue.dequeue?_isSome w.queue).trans (by simpa using busy))
    refine ⟨.take i, rfl, ?_⟩
    cases entry <;> simp [step?, found, first]
  | handling item => exact ⟨.finish i, rfl, by simp [step?, found]⟩
  | leaving => exact ⟨.leave i, rfl, by simp [step?, found]⟩
  | gone => exact absurd rfl present

/-- What holds of workers after every interleaving, given the items that were put into the queue and those that
were taken out. -/
structure Conserving (offered taken : List α) (w : Workers α) : Prop where
  /-- Items are taken in the order in which they came; those that were dropped came one after the other. -/
  order : ∃ before later, taken = before ++ later ∧ offered = before ++ w.dropped ++ later ++ w.queue.items
  /-- Each item waits, is in the hands of one worker, was handled, or was dropped. -/
  places : offered.Perm (w.queue.items ++ w.inHands ++ w.handled ++ w.dropped)
  /-- Whatever was taken is in somebody's hands or was handled, once. -/
  hands : taken.Perm (w.inHands ++ w.handled)
  /-- The queue is cleared once, and the number that comes with it is that of the dropped items. -/
  clearing : w.closing = .running → w.dropped = [] ∧ ∃ cleared, w.step? .clear = some cleared ∧
    cleared.queue = w.queue.clear.2 ∧ cleared.dropped = w.queue.items ∧ cleared.dropped.length = w.queue.clear.1
  /-- Whoever stops the workers can do so to the end. -/
  stops : w.closing = .running → w.stop.closing = .joined
  /-- There is no sign to stop before it is given, and just one from then on. -/
  signs : w.queue.signs + w.signsHeld = w.closing.signs
  /-- As long as somebody is there after the sign, somebody is busy or has something to take. -/
  goesOn : w.closing.signs = 1 → (∃ worker ∈ w.workers, worker ≠ .gone) →
    ((∃ item, .handling item ∈ w.workers) ∨ .leaving ∈ w.workers ∨ w.queue.isEmpty = false) ∧
      ∃ action, action.offered? = none ∧ (w.step? action).isSome
  /-- There is nobody to wait for just when everybody was waited for. -/
  isEmpty : w.isEmpty = true ↔ w.closing = .joined
  /-- In the end everybody has left, the sign stands in the queue, and only new items can change anything. -/
  joined : w.closing = .joined → (∀ worker ∈ w.workers, worker = .gone) ∧ w.queue.signs = 1 ∧
    (∀ actions, Workers.offered actions = [] → w.run actions = w) ∧ w.stop = w

namespace Ledger
variable {offered taken : List α}

open scoped List in
theorem places (ledger : Ledger offered taken w) :
    offered.Perm (w.queue.items ++ w.inHands ++ w.handled ++ w.dropped) := by
  obtain ⟨before, later, takenAs, offeredAs, -⟩ := ledger.order
  have hands : (before ++ later).Perm (w.inHands ++ w.handled) := takenAs ▸ ledger.hands
  calc offered
    _ = before ++ w.dropped ++ later ++ w.queue.items := offeredAs
    _ ~ w.queue.items ++ (before ++ w.dropped ++ later) := List.perm_append_comm
    _ ~ w.queue.items ++ ((before ++ later) ++ w.dropped) := by
      rw [List.append_assoc before, List.append_assoc before]
      exact (List.perm_append_comm.append_left before).append_left _
    _ ~ w.queue.items ++ ((w.inHands ++ w.handled) ++ w.dropped) := (hands.append_right _).append_left _
    _ = w.queue.items ++ w.inHands ++ w.handled ++ w.dropped := by simp only [List.append_assoc]

theorem signs_joined (ledger : Ledger offered taken w) (joined : w.closing = .joined) : w.queue.signs = 1 := by
  have counted := ledger.signs
  have none : w.signsHeld = 0 := by
    refine List.countP_eq_zero.mpr fun worker member => ?_
    rw [ledger.joined joined worker member]
    exact Bool.false_ne_true
  rwa [joined, none] at counted

theorem stays (ledger : Ledger offered taken w) (running : w.closing = .running) : .leaving ∉ w.workers := by
  have counted := ledger.signs
  rw [running] at counted
  have none : w.signsHeld = 0 := Nat.eq_zero_of_add_eq_zero_left counted
  exact fun leaving => absurd rfl (List.countP_eq_zero.mp none .leaving leaving)

theorem isEmpty_iff (ledger : Ledger offered taken w) : w.isEmpty = true ↔ w.closing = .joined := by
  have crew := ledger.crew
  rw [isEmpty, decide_eq_true_iff, size]
  split
  · exact iff_of_true rfl ‹_›
  · exact iff_of_false (by omega) ‹_›

end Ledger

/-- In every interleaving of producers, workers and the one who stops the workers, items are passed on in order and
none is lost or handled twice, and nobody is left behind. -/
theorem run_conserving (count : Nat) (actions : List (Action α)) :
    Conserving (offered actions) ((start count).taken actions) ((start count).run actions) := by
  have ledger := (Ledger.start count).run actions
  rw [List.nil_append, List.nil_append] at ledger
  obtain ⟨before, later, takenAs, offeredAs, untouched⟩ := ledger.order
  exact {
    order := ⟨before, later, takenAs, offeredAs⟩
    places := ledger.places
    hands := ledger.hands
    clearing := fun running => by
      have undropped := (untouched running).1
      refine ⟨undropped, _, if_pos running, rfl, ?_, ?_⟩
      · rw [undropped, List.nil_append]
      · rw [undropped, List.nil_append]
        rfl
    stops := fun running => closing_stop running (ledger.stays running)
    signs := ledger.signs
    goesOn := fun given ⟨worker, member, present⟩ => by
      rcases ledger.goesOn given with leaving | waits
      · exact ⟨.inr (.inl leaving), exists_step leaving (by simp) (.inr (by simp))⟩
      · exact ⟨.inr (.inr waits), exists_step member present (.inl waits)⟩
    isEmpty := ledger.isEmpty_iff
    joined := fun joined => by
      have gone := ledger.joined joined
      have rests := fun actions => run_joined joined gone actions
      exact ⟨gone, ledger.signs_joined joined, rests, rests _ (offered_stop _)⟩ }

end Workers
end HttpExchange
