import HttpExchange.Proofs.Regex.Octets

/-!
Automata in the making. Every state is labelled with the points at which it may be come to; a way on leads from label
to label, and an end that is still open leads to what is promised of it (`Sound`). What a making adds is
a piece that leads on as a relation between points says (`Makes`), and pieces are put together by what they do.
-/
namespace HttpExchange.Regex
variable {content : Array Char} {goal : Point → Prop}

/-! ### Ways -/

namespace State

/-- The ways of a state that stay if it is linked: those of a fork, and moves that were given with their ends. -/
inductive Kept (content : Array Char) : State → Point → Nat → Point → Prop
  | fork {preferLast : Bool} {nexts : Array Nat} {next : Nat} {p : Point} (member : next ∈ nexts.toList) :
      Kept content (fork preferLast nexts) p next p
  | octets {moves : List Move} {move : Move} {octet : Nat} {p : Point} (member : move ∈ moves)
      (takes : move.takes octet = true) (next : p.octet? content = some octet) :
      Kept content (octets moves) p move.next (p.onward content)

/-- What a state does before it goes on where it is linked to. -/
inductive Leaves (content : Array Char) : State → Point → Point → Prop
  | pass {next : Nat} {p : Point} : Leaves content (pass next) p p
  | fork {preferLast : Bool} {nexts : Array Nat} {p : Point} : Leaves content (fork preferLast nexts) p p
  | octet {move : Move} {octet : Nat} {p : Point} (takes : move.takes octet = true)
      (next : p.octet? content = some octet) : Leaves content (.octet move) p (p.onward content)
  | look {k : Look} {next : Nat} {p : Point} (between : p.taken = 0) (holds : k.holds content p.place = true) :
      Leaves content (look k next) p p
  | save {slot next : Nat} {p : Point} :
      Leaves content (save slot next) p { p with slots := (slot, p.place?.getD 0) :: p.slots }

/-- The state that a state is linked to, if it has one way on. -/
def next? : State → Option Nat
  | pass next | look _ next | save _ next => some next
  | octet move => some move.next
  | _ => none

/-- All ways of a state. -/
def Goes (content : Array Char) (st : State) (p : Point) (next : Nat) (q : Point) : Prop :=
  st.Kept content p next q ∨ st.next? = some next ∧ st.Leaves content p q

theorem leaves_linked {st : State} {target : Nat} {p q : Point} :
    (linked target st).Leaves content p q ↔ st.Leaves content p q := by
  constructor
  · intro leaves
    cases st <;> cases leaves <;> constructor <;> assumption
  · intro leaves
    cases leaves <;> constructor <;> assumption

/-- A link keeps the ways that stay, and adds one to a fork. -/
theorem kept_linked {st : State} {target next : Nat} {p q : Point} (kept : (linked target st).Kept content p next q) :
    st.Kept content p next q ∨ next = target ∧ st.Leaves content p q := by
  cases st with
  | fork preferLast nexts =>
    cases kept with
    | fork member =>
      rw [Array.toList_push, List.mem_append, List.mem_singleton] at member
      rcases member with before | new
      · exact .inl (.fork before)
      · exact .inr ⟨new, .fork⟩
  | octets moves => exact .inl kept
  | _ => cases kept

/-- The ways of a linked state: those that stay, and the one of the link. -/
theorem goes_linked {st : State} {target next : Nat} {p q : Point} (goes : (linked target st).Goes content p next q) :
    st.Kept content p next q ∨ next = target ∧ st.Leaves content p q := by
  rcases goes with kept | ⟨led, leaves⟩
  · exact kept_linked kept
  · have behind := leaves_linked.mp leaves
    cases st <;> cases led <;> exact .inr ⟨rfl, behind⟩

end State

/-! ### Labels -/

/-- States, and at which points each of them may be come to. -/
structure Plan where
  states : Array State
  label : Nat → Point → Prop

namespace Plan

/-- There is such a state, and it may be come to at the point. -/
structure Admits (plan : Plan) (s : Nat) (p : Point) : Prop where
  inside : s < plan.states.size
  labelled : plan.label s p

/-- More states may have been added, and nothing is changed about where one may come to those before. -/
structure Grown (plan plan' : Plan) : Prop where
  size : plan.states.size ≤ plan'.states.size
  same : ∀ s < plan.states.size, plan'.label s = plan.label s

variable {plan plan' plan'' : Plan}

theorem Grown.refl (plan : Plan) : Grown plan plan := ⟨Nat.le_refl _, fun _ _ => rfl⟩

theorem Grown.trans (first : Grown plan plan') (second : Grown plan' plan'') : Grown plan plan'' where
  size := Nat.le_trans first.size second.size
  same s small := (second.same s (Nat.lt_of_lt_of_le small first.size)).trans (first.same s small)

theorem Admits.grown {s : Nat} {p : Point} (admits : plan.Admits s p) (grown : Grown plan plan') :
    plan'.Admits s p where
  inside := Nat.lt_of_lt_of_le admits.inside grown.size
  labelled := by rw [grown.same s admits.inside]; exact admits.labelled

/-- The plan with one more state, which may be come to at some points. -/
def pushed (plan : Plan) (st : State) (before : Point → Prop) : Plan where
  states := plan.states.push st
  label s := if s = plan.states.size then before else plan.label s

theorem grown_pushed (plan : Plan) (st : State) (before : Point → Prop) : plan.Grown (plan.pushed st before) where
  size := by simp [pushed]
  same _ small := if_neg (Nat.ne_of_lt small)

theorem label_pushed (plan : Plan) (st : State) (before : Point → Prop) :
    (plan.pushed st before).label plan.states.size = before := if_pos rfl

theorem pushed_cases {st new : State} {before : Point → Prop} {s : Nat}
    (here : (plan.pushed st before).states[s]? = some new) :
    plan.states[s]? = some new ∧ s < plan.states.size ∨ s = plan.states.size ∧ new = st := by
  rw [pushed, Array.getElem?_push] at here
  split at here
  · exact .inr ⟨‹_›, (Option.some.inj here).symm⟩
  · exact .inl ⟨here, (Array.getElem?_eq_some_iff.mp here).1⟩

end Plan

/-- An end that is still open, with what holds where it leads. -/
abbrev OpenEnd := Nat × (Point → Prop)

theorem OpenEnd.mem_opened {s last : Nat} {after : Point → Prop} {afters : List (Point → Prop)} {ends : List OpenEnd} :
    (s, after) ∈ afters.map (Prod.mk last) ++ ends ↔ s = last ∧ after ∈ afters ∨ (s, after) ∈ ends := by
  rw [List.mem_append, List.mem_map]
  constructor
  · rintro (⟨_, member, same⟩ | old)
    · cases same
      exact .inl ⟨rfl, member⟩
    · exact .inr old
  · rintro (⟨rfl, member⟩ | old)
    · exact .inl ⟨after, member, rfl⟩
    · exact .inr old

/-- A plan that every way on respects. Open ends keep their promise, and the goal is reached by whoever is accepted. -/
structure Sound (content : Array Char) (goal : Point → Prop) (plan : Plan) (ends : List OpenEnd) : Prop where
  keeps : ∀ (s : Nat) (st : State), plan.states[s]? = some st → ∀ p next q, plan.label s p →
    st.Kept content p next q → plan.Admits next q
  leaves : ∀ (s : Nat) (st : State), plan.states[s]? = some st → ∀ after, (s, after) ∈ ends →
    ∀ p q, plan.label s p → st.Leaves content p q → after q
  goes : ∀ (s : Nat) (st : State), plan.states[s]? = some st → (∀ after, (s, after) ∉ ends) →
    ∀ p next q, plan.label s p → st.Goes content p next q → plan.Admits next q
  accepts : ∀ s, plan.states[s]? = some .accept → ∀ p, plan.label s p → goal p
  bounded : ∀ s after, (s, after) ∈ ends → s < plan.states.size

namespace Sound
variable {plan : Plan} {ends : List OpenEnd}

theorem empty (label : Nat → Point → Prop) : Sound content goal ⟨#[], label⟩ [] where
  keeps := by simp
  leaves := by simp
  goes := by simp
  accepts := by simp
  bounded := by simp

/-- A new state may be labelled as one likes, if its ways respect that. Any of its ends are open for what it
promises. -/
theorem push (sound : Sound content goal plan ends) (st : State) {before : Point → Prop} (afters : List (Point → Prop))
    (kept : ∀ p next q, before p → st.Kept content p next q → plan.Admits next q)
    (leaves : ∀ after ∈ afters, ∀ p q, before p → st.Leaves content p q → after q)
    (goes : afters = [] → ∀ p next q, before p → st.Goes content p next q → plan.Admits next q)
    (accepts : st = .accept → ∀ p, before p → goal p) :
    ∃ plan', plan'.states = plan.states.push st ∧ plan.Grown plan' ∧ (∀ p, before p → plan'.Admits plan.states.size p) ∧
      Sound content goal plan' (afters.map (Prod.mk plan.states.size) ++ ends) := by
  have grown := plan.grown_pushed st before
  have admits : ∀ p, before p → (plan.pushed st before).Admits plan.states.size p := fun p entered =>
    ⟨by simp [Plan.pushed], by rwa [Plan.label_pushed]⟩
  refine ⟨plan.pushed st before, rfl, grown, admits, ?_, ?_, ?_, ?_, ?_⟩
  · intro s new here p next q labelled stays
    rcases Plan.pushed_cases here with ⟨old, small⟩ | ⟨rfl, rfl⟩
    · rw [grown.same s small] at labelled
      exact (sound.keeps s new old p next q labelled stays).grown grown
    · rw [Plan.label_pushed] at labelled
      exact (kept p next q labelled stays).grown grown
  · intro s new here promised member p q labelled left
    rcases Plan.pushed_cases here with ⟨old, small⟩ | ⟨rfl, rfl⟩
    · rw [grown.same s small] at labelled
      rcases OpenEnd.mem_opened.mp member with ⟨rfl, -⟩ | before
      · exact absurd small (Nat.lt_irrefl _)
      · exact sound.leaves s new old promised before p q labelled left
    · rw [Plan.label_pushed] at labelled
      rcases OpenEnd.mem_opened.mp member with ⟨-, among⟩ | before
      · exact leaves promised among p q labelled left
      · exact absurd (sound.bounded _ _ before) (Nat.lt_irrefl _)
  · intro s new here closed p next q labelled way
    rcases Plan.pushed_cases here with ⟨old, small⟩ | ⟨rfl, rfl⟩
    · rw [grown.same s small] at labelled
      have still : ∀ after, (s, after) ∉ ends := fun after member => closed after (OpenEnd.mem_opened.mpr (.inr member))
      exact (sound.goes s new old still p next q labelled way).grown grown
    · rw [Plan.label_pushed] at labelled
      have none : afters = [] := List.eq_nil_iff_forall_not_mem.mpr fun after member =>
        closed after (OpenEnd.mem_opened.mpr (.inl ⟨rfl, member⟩))
      exact (goes none p next q labelled way).grown grown
  · intro s here p labelled
    rcases Plan.pushed_cases here with ⟨old, small⟩ | ⟨rfl, same⟩
    · rw [grown.same s small] at labelled
      exact sound.accepts s old p labelled
    · rw [Plan.label_pushed] at labelled
      exact accepts same.symm p labelled
  · intro s promised member
    rcases OpenEnd.mem_opened.mp member with ⟨rfl, -⟩ | before
    · simp [Plan.pushed]
    · exact Nat.lt_of_lt_of_le (sound.bounded s promised before) grown.size

/-- An open end is linked to a state that may be come to as it promises. It stays open or not. -/
theorem link (sound : Sound content goal plan ends) {source target : Nat} {after : Point → Prop}
    {ends' : List OpenEnd} (opened : (source, after) ∈ ends) (led : ∀ q, after q → plan.Admits target q)
    (fewer : ∀ e ∈ ends', e ∈ ends) (others : ∀ e ∈ ends, e.1 = source ∨ e ∈ ends') :
    Sound content goal ⟨plan.states.modify source (State.linked target), plan.label⟩ ends' := by
  have changed : ∀ s new, (plan.states.modify source (State.linked target))[s]? = some new →
      s ≠ source ∧ plan.states[s]? = some new ∨
        s = source ∧ ∃ old, plan.states[s]? = some old ∧ new = State.linked target old := by
    intro s new here
    rw [Array.getElem?_modify] at here
    split at here
    · obtain ⟨old, there, same⟩ := Option.map_eq_some_iff.mp here
      exact .inr ⟨‹source = s›.symm, old, there, same.symm⟩
    · exact .inl ⟨Ne.symm ‹_›, here⟩
  have promise : ∀ old, plan.states[source]? = some old → ∀ p q, plan.label source p → old.Leaves content p q →
      plan.Admits target q :=
    fun old there p q labelled left => led q (sound.leaves source old there after opened p q labelled left)
  have grown : plan.Grown ⟨plan.states.modify source (State.linked target), plan.label⟩ := ⟨by simp, fun _ _ => rfl⟩
  refine ⟨?_, ?_, ?_, ?_, ?_⟩
  · intro s new here p next q labelled kept
    rcases changed s new here with ⟨-, old⟩ | ⟨rfl, old, there, rfl⟩
    · exact (sound.keeps s new old p next q labelled kept).grown grown
    · rcases State.kept_linked kept with stays | ⟨rfl, left⟩
      · exact (sound.keeps s old there p next q labelled stays).grown grown
      · exact (promise old there p q labelled left).grown grown
  · intro s new here promised member p q labelled left
    rcases changed s new here with ⟨-, old⟩ | ⟨rfl, old, there, rfl⟩
    · exact sound.leaves s new old promised (fewer _ member) p q labelled left
    · exact sound.leaves s old there promised (fewer _ member) p q labelled (State.leaves_linked.mp left)
  · intro s new here closed p next q labelled goes
    rcases changed s new here with ⟨apart, old⟩ | ⟨rfl, old, there, rfl⟩
    · refine (sound.goes s new old (fun promised member => ?_) p next q labelled goes).grown grown
      rcases others _ member with same | stays
      · exact apart same
      · exact closed promised stays
    · rcases State.goes_linked goes with stays | ⟨rfl, left⟩
      · exact (sound.keeps s old there p next q labelled stays).grown grown
      · exact (promise old there p q labelled left).grown grown
  · intro s here p labelled
    rcases changed s .accept here with ⟨-, old⟩ | ⟨rfl, old, there, same⟩
    · exact sound.accepts s old p labelled
    · have accepted : old = .accept := by cases old <;> cases same; rfl
      exact sound.accepts s (accepted ▸ there) p labelled
  · intro s promised member
    exact Nat.lt_of_lt_of_le (sound.bounded s promised (fewer _ member)) grown.size

/-- A promise may be weakened. -/
theorem weaken {last : Nat} {after weaker : Point → Prop} (sound : Sound content goal plan ((last, after) :: ends))
    (follows : ∀ q, after q → weaker q) : Sound content goal plan ((last, weaker) :: ends) where
  keeps := sound.keeps
  leaves s st here promised member p q labelled left := by
    rcases List.mem_cons.mp member with same | other
    · cases same
      exact follows q (sound.leaves _ st here after (List.mem_cons_self ..) p q labelled left)
    · exact sound.leaves s st here promised (List.mem_cons_of_mem _ other) p q labelled left
  goes s st here closed := by
    refine sound.goes s st here fun promised member => ?_
    rcases List.mem_cons.mp member with same | other
    · cases same
      exact closed weaker (List.mem_cons_self ..)
    · exact closed promised (List.mem_cons_of_mem _ other)
  accepts := sound.accepts
  bounded s promised member := by
    rcases List.mem_cons.mp member with same | other
    · cases same
      exact sound.bounded _ after (List.mem_cons_self ..)
    · exact sound.bounded s promised (List.mem_cons_of_mem _ other)

end Sound

/-! ### Makings -/

namespace Making
variable {α β : Type} {make : Making α} {plan : Plan} {ends : List OpenEnd}

/-- If a making succeeds on the states of a plan, then the plan can be extended to what it made, so that something
holds. -/
def Leads (make : Making α) (plan : Plan) (post : α → Plan → Prop) : Prop :=
  ∀ d a d', d.states = plan.states → make d = some (a, d') →
    ∃ plan', d'.states = plan'.states ∧ plan.Grown plan' ∧ post a plan'

namespace Leads

theorem pure {a : α} {post : α → Plan → Prop} (holds : post a plan) : Leads (Pure.pure a) plan post := by
  intro d a' d' here done
  cases Option.some_inj.mp done
  exact ⟨plan, here, .refl plan, holds⟩

theorem bind {next : α → Making β} {post : β → Plan → Prop}
    (leads : Leads make plan fun a plan' => Leads (next a) plan' post) : Leads (make >>= next) plan post := by
  intro d b d' here done
  obtain ⟨⟨a, between⟩, first, second⟩ := Option.bind_eq_some_iff.mp
    (show (make d).bind (fun made => next made.1 made.2) = some (b, d') from done)
  obtain ⟨plan₁, there, grown₁, further⟩ := leads d a between here first
  obtain ⟨plan₂, ends, grown₂, holds⟩ := further between b d' there second
  exact ⟨plan₂, ends, grown₁.trans grown₂, holds⟩

theorem mono {post weaker : α → Plan → Prop} (leads : Leads make plan post)
    (follows : ∀ a plan', plan.Grown plan' → post a plan' → weaker a plan') : Leads make plan weaker := by
  intro d a d' here done
  obtain ⟨plan', there, grown, holds⟩ := leads d a d' here done
  exact ⟨plan', there, grown, follows a plan' grown holds⟩

/-- A state is added with a label that its ways respect. -/
theorem push (sound : Sound content goal plan ends) {st : State} {before : Point → Prop} (afters : List (Point → Prop))
    (kept : ∀ p next q, before p → st.Kept content p next q → plan.Admits next q)
    (leaves : ∀ after ∈ afters, ∀ p q, before p → st.Leaves content p q → after q)
    (goes : afters = [] → ∀ p next q, before p → st.Goes content p next q → plan.Admits next q)
    (accepts : st = .accept → ∀ p, before p → goal p) {post : Nat → Plan → Prop}
    (holds : ∀ s plan', plan.Grown plan' → s < plan'.states.size → (∀ p, before p → plan'.Admits s p) →
      Sound content goal plan' (afters.map (Prod.mk s) ++ ends) → post s plan') :
    Leads (add st) plan post := by
  intro d s d' here done
  simp only [add, Option.ite_none_left_eq_some, Option.some.injEq, Prod.mk.injEq] at done
  obtain ⟨-, rfl, rfl⟩ := done
  obtain ⟨plan', states, grown, admits, sound'⟩ := sound.push st afters kept leaves goes accepts
  rw [here]
  exact ⟨plan', states.symm, grown, holds _ plan' grown (by simp [states]) admits sound'⟩

/-- A state that is to be linked is added with any label. What it does before it goes on is promised. -/
theorem add (sound : Sound content goal plan ends) {st : State} (before after : Point → Prop)
    (unlinked : ∀ p next q, ¬ st.Kept content p next q) (proper : st ≠ .accept)
    (leaves : ∀ p q, before p → st.Leaves content p q → after q) {post : Nat → Plan → Prop}
    (holds : ∀ s plan', plan.Grown plan' → (∀ p, before p → plan'.Admits s p) →
      Sound content goal plan' ((s, after) :: ends) → post s plan') :
    Leads (Making.add st) plan post :=
  push sound [after] (fun p next q _ stays => absurd stays (unlinked p next q))
    (fun _ member => List.mem_singleton.mp member ▸ leaves) (fun none => by cases none) (fun same => absurd same proper)
    fun s plan' grown _ => holds s plan' grown

/-- A state whose ways are all there is added with a label that they respect. -/
theorem addClosed (sound : Sound content goal plan ends) {st : State} (before : Point → Prop) (proper : st ≠ .accept)
    (goes : ∀ p next q, before p → st.Goes content p next q → plan.Admits next q) {post : Nat → Plan → Prop}
    (holds : ∀ s plan', plan.Grown plan' → s < plan'.states.size → (∀ p, before p → plan'.Admits s p) →
      Sound content goal plan' ends → post s plan') :
    Leads (Making.add st) plan post :=
  push sound [] (fun p next q entered stays => goes p next q entered (.inl stays)) (fun _ member => by cases member)
    (fun _ => goes) (fun same => absurd same proper) holds

/-- A new fork promises its label. -/
theorem fork (sound : Sound content goal plan ends) {preferLast : Bool} (before : Point → Prop)
    {post : Nat → Plan → Prop}
    (holds : ∀ s plan', plan.Grown plan' → (∀ p, before p → plan'.Admits s p) →
      Sound content goal plan' ((s, before) :: ends) → post s plan') :
    Leads (Piece.fork preferLast) plan post :=
  add sound before before (fun _ _ _ stays => by cases stays with | fork member => cases member) (by simp)
    (fun _ _ entered left => by cases left; exact entered) holds

/-- So does a state that is passed. -/
theorem pass (sound : Sound content goal plan ends) (before : Point → Prop) {post : Nat → Plan → Prop}
    (holds : ∀ s plan', plan.Grown plan' → (∀ p, before p → plan'.Admits s p) →
      Sound content goal plan' ((s, before) :: ends) → post s plan') :
    Leads (Making.add (.pass 0)) plan post :=
  add sound before before (fun _ _ _ stays => by cases stays) (by simp)
    (fun _ _ entered left => by cases left; exact entered)
    holds

/-- An open end is linked. -/
theorem link (sound : Sound content goal plan ends) {source target : Nat} (after : Point → Prop)
    (ends' : List OpenEnd) (opened : (source, after) ∈ ends) (led : ∀ q, after q → plan.Admits target q)
    (fewer : ∀ e ∈ ends', e ∈ ends) (others : ∀ e ∈ ends, e.1 = source ∨ e ∈ ends') {post : Unit → Plan → Prop}
    (holds : ∀ plan', plan.Grown plan' → Sound content goal plan' ends' → post () plan') :
    Leads (Making.link source target) plan post := by
  intro d result d' here done
  simp only [Making.link, Option.ite_none_left_eq_some, Option.some.injEq, Prod.mk.injEq] at done
  obtain ⟨-, -, rfl⟩ := done
  have grown : plan.Grown ⟨plan.states.modify source (State.linked target), plan.label⟩ := ⟨by simp, fun _ _ => rfl⟩
  exact ⟨_, by rw [here], grown, holds _ grown (sound.link opened led fewer others)⟩

/-- An open end is linked to stay open. -/
theorem linkOn (sound : Sound content goal plan ends) {source target : Nat} (after : Point → Prop)
    (opened : (source, after) ∈ ends) (led : ∀ q, after q → plan.Admits target q) {post : Unit → Plan → Prop}
    (holds : ∀ plan', plan.Grown plan' → Sound content goal plan' ends → post () plan') :
    Leads (Making.link source target) plan post :=
  link sound after ends opened led (fun _ member => member) (fun _ member => .inr member) holds

end Leads
end Making

open Making (Leads)

/-- Whoever comes to the first state of what is made leaves its last one, which is open, at a point where the course
leads. -/
def Makes (content : Array Char) (make : Making Piece) (course : Point → Point → Prop) : Prop :=
  ∀ (goal : Point → Prop) (plan : Plan) (ends : List OpenEnd) (before : Point → Prop), Sound content goal plan ends →
    Leads make plan fun piece plan' => (∀ p, before p → plan'.Admits piece.first p) ∧
      Sound content goal plan' ((piece.last, fun q => ∃ p, before p ∧ course p q) :: ends)

variable {make : Making Piece} {course wider : Point → Point → Prop} {plan : Plan} {ends : List OpenEnd}

/-- A piece is made for whoever comes to it. -/
theorem Makes.leads (makes : Makes content make course) (sound : Sound content goal plan ends) (before : Point → Prop)
    {post : Piece → Plan → Prop} (holds : ∀ a plan', plan.Grown plan' → (∀ p, before p → plan'.Admits a.first p) →
      Sound content goal plan' ((a.last, fun q => ∃ p, before p ∧ course p q) :: ends) → post a plan') :
    Leads make plan post :=
  (makes goal plan ends before sound).mono fun a plan' grown made => holds a plan' grown made.1 made.2

theorem Makes.mono (makes : Makes content make course) (follows : ∀ p q, course p q → wider p q) :
    Makes content make wider := fun _ _ _ before sound =>
  makes.leads sound before fun _ _ _ admits sound' =>
    ⟨admits, sound'.weaken fun q ⟨p, entered, led⟩ => ⟨p, entered, follows p q led⟩⟩

/-- A state by itself does what it does before it goes on. -/
theorem makes_ofState {st : State} (unlinked : ∀ p next q, ¬ st.Kept content p next q) (proper : st ≠ .accept) :
    Makes content (Piece.ofState st) (st.Leaves content) := by
  intro goal plan ends before sound
  refine Leads.bind (.add sound before (fun q => ∃ p, before p ∧ st.Leaves content p q) unlinked proper
    (fun p q entered left => ⟨p, entered, left⟩) fun s plan' _ admits sound' => ?_)
  exact .pure ⟨admits, sound'⟩

theorem makes_nothing : Makes content Piece.nothing Eq := by
  refine (makes_ofState (fun p next q kept => by cases kept) (by simp)).mono fun p q left => ?_
  cases left
  rfl

/-- A piece of one octet takes it. -/
theorem makes_octet (octet : Nat) : Makes content (Piece.octet octet octet) fun p q => Reads content p [octet] q := by
  refine (makes_ofState (fun p next q kept => by cases kept) (by simp)).mono fun p q left => ?_
  cases left with
  | octet takes next =>
    simp only [Move.takes, Bool.and_eq_true, decide_eq_true_eq] at takes
    obtain rfl := Nat.le_antisymm takes.2 takes.1
    exact .cons next (.nil _)

/-! ### One after the other -/

/-- Courses one after the other. -/
inductive Along : List (Point → Point → Prop) → Point → Point → Prop
  | nil (p : Point) : Along [] p p
  | cons {course : Point → Point → Prop} {rest : List (Point → Point → Prop)} {p q r : Point} (first : course p q)
      (others : Along rest q r) : Along (course :: rest) p r

theorem Along.append {front back : List (Point → Point → Prop)} {p q r : Point} (first : Along front p q)
    (others : Along back q r) : Along (front ++ back) p r := by
  induction first with
  | nil p => exact others
  | cons first _ ih => exact .cons first (ih others)

/-- Pieces that are made behind an open end are taken one after the other. -/
theorem leads_continued {makes : List (Making Piece)} {courses : List (Point → Point → Prop)}
    (all : List.Forall₂ (Makes content) makes courses) {a : Piece} {before after : Point → Prop}
    (sound : Sound content goal plan ((a.last, after) :: ends)) (admits : ∀ p, before p → plan.Admits a.first p) :
    Leads (a.continued makes) plan fun piece plan' => (∀ p, before p → plan'.Admits piece.first p) ∧
      Sound content goal plan' ((piece.last, fun q => ∃ p, after p ∧ Along courses p q) :: ends) := by
  induction all generalizing a plan after with
  | nil => exact .pure ⟨admits, sound.weaken fun q led => ⟨q, led, .nil q⟩⟩
  | @cons make course makes courses first others ih =>
    rw [Piece.continued, List.foldlM_cons]
    refine Leads.bind (Leads.bind (first.leads sound after fun b plan₁ grown₁ enters sound₁ => Leads.bind ?_))
    refine Leads.link sound₁ after ((b.last, fun q => ∃ p, after p ∧ course p q) :: ends) (by simp) enters (by grind)
      (by grind) fun plan₂ grown₂ sound₂ => .pure ?_
    refine (ih (a := ⟨a.first, b.last⟩) sound₂ fun p entered => ((admits p entered).grown grown₁).grown grown₂).mono ?_
    rintro piece plan₃ - ⟨admits₃, sound₃⟩
    refine ⟨admits₃, sound₃.weaken ?_⟩
    rintro r ⟨q, ⟨p, entered, led⟩, along⟩
    exact ⟨p, entered, .cons led along⟩

/-- Pieces in a chain are taken one after the other. -/
theorem makes_chain {makes : List (Making Piece)} {courses : List (Point → Point → Prop)}
    (all : List.Forall₂ (Makes content) makes courses) : Makes content (Piece.chain makes) (Along courses) := by
  cases all with
  | nil => exact makes_nothing.mono fun p q same => same ▸ .nil p
  | @cons make course makes courses first others =>
    intro goal plan ends before sound
    refine Leads.bind (first.leads sound before fun a plan₁ _ enters sound₁ => ?_)
    refine (leads_continued others sound₁ enters).mono ?_
    rintro piece plan₂ - ⟨admits, sound₂⟩
    refine ⟨admits, sound₂.weaken ?_⟩
    rintro r ⟨q, ⟨p, entered, led⟩, along⟩
    exact ⟨p, entered, .cons led along⟩

theorem continuedTimes_eq (n : Nat) (a : Piece) :
    Piece.continuedTimes make n a = a.continued (List.replicate n make) := by
  induction n generalizing a with
  | zero => rfl
  | succ n ih =>
    funext d
    change _ = ((do a.followedBy (← make) : Making Piece) d).bind fun made =>
      made.1.continued (List.replicate n make) made.2
    rw [Piece.continuedTimes]
    cases (do a.followedBy (← make) : Making Piece) d with
    | none => rfl
    | some made => exact congrFun (ih made.1) made.2

theorem times_eq_chain (n : Nat) : Piece.times make n = Piece.chain (List.replicate n make) := by
  cases n with
  | zero => rfl
  | succ n =>
    rw [Piece.times, List.replicate_succ, Piece.chain]
    simp only [continuedTimes_eq]

/-- So many rounds of a piece. -/
theorem makes_times (makes : Makes content make course) (n : Nat) :
    Makes content (Piece.times make n) (Along (List.replicate n course)) := by
  rw [times_eq_chain]
  refine makes_chain ?_
  induction n with
  | zero => exact .nil
  | succ n ih => exact .cons makes ih

end HttpExchange.Regex
