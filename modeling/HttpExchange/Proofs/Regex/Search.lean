import HttpExchange.Proofs.Regex.Course

/-!
What a search finds is a match. Each path stands where the label of its state says, whatever paths it was preferred to,
and whoever comes to the end has taken what the pattern matches.
-/
namespace HttpExchange.Regex
open Making (Leads)
variable {content : Array Char} {goal : Point → Prop} {plan : Plan} {a : Automaton}

/-! ### The whole automaton -/

namespace Automaton

/-- Every path of an automaton keeps to a plan, and whoever starts at the start of the text is accepted at the goal. -/
structure Keeps (content : Array Char) (goal : Point → Prop) (plan : Plan) (a : Automaton) : Prop where
  states : a.states = plan.states
  sound : Sound content goal plan []
  starts : plan.Admits a.start ⟨0, 0, []⟩

/-- Whoever is at the end of a match of a pattern that begins at the start of the text. -/
def Ends (content : Array Char) (p : Pattern) (q : Point) : Prop :=
  q.taken = 0 ∧ (Pattern.group 0 p).Matches content ⟨0, []⟩ ⟨q.place, q.slots⟩

/-- The automaton of a pattern that begins at the start of the text accepts at the ends of its matches. -/
theorem keeps_ofPattern {p : Pattern} (begins : p.beginsText = true) (built : ofPattern? false p = some a) :
    ∃ plan, Keeps content (Ends content p) plan a := by
  simp only [ofPattern?, Bool.false_eq_true, if_false, begins, if_true, Option.map_eq_some_iff, Prod.exists] at built
  obtain ⟨start, d, made, rfl⟩ := built
  let first : Point → Prop := fun q => q = ⟨0, 0, []⟩
  let last : Point → Prop := fun q => ∃ r, first r ∧ (Pattern.group 0 p).Takes content r q
  have accepts : ∀ q, last q → Ends content p q := by
    rintro q ⟨r, rfl, takes⟩
    exact takes rfl
  have none : Sound content (Ends content p) ⟨#[], fun _ _ => False⟩ [] := .empty _
  have leads : Leads (do
      let before ← Piece.nothing
      let whole ← (Pattern.group 0 p).make false
      let accept ← Making.add .accept
      Making.link whole.last accept
      Making.link before.last whole.first
      return before.first : Making Nat) ⟨#[], fun _ _ => False⟩ fun start plan =>
        Sound content (Ends content p) plan [] ∧ plan.Admits start ⟨0, 0, []⟩ := by
    refine Leads.bind (makes_nothing.leads none first fun before plan₁ grown₁ starts sound₁ => ?_)
    refine Leads.bind
      ((Pattern.makes_pattern (.group 0 p)).leads sound₁ first fun whole plan₂ grown₂ enters sound₂ => ?_)
    refine Leads.bind (.push sound₂ [] ?_ (fun _ member => by cases member) (fun _ => ?_) (fun _ => accepts)
      fun accept plan₃ grown₃ _ arrives sound₃ => ?_)
    · intro r next q _ stays
      cases stays
    · rintro r next q - (stays | ⟨led, -⟩)
      · cases stays
      · cases led
    refine Leads.bind (.link sound₃ last [(before.last, fun q => ∃ r, first r ∧ r = q)] (List.mem_cons_self ..) arrives
      (by grind) (by grind) fun plan₄ grown₄ sound₄ => ?_)
    refine Leads.bind (.link sound₄ _ [] (List.mem_singleton_self _) ?_ (by simp) (by simp)
      fun plan₅ grown₅ sound₅ => .pure ⟨sound₅, ?_⟩)
    · rintro q ⟨_, rfl, rfl⟩
      exact ((enters _ rfl).grown grown₃).grown grown₄
    · exact (starts _ rfl).grown (grown₂.trans (grown₃.trans (grown₄.trans grown₅)))
  obtain ⟨plan, states, -, sound, starts⟩ := leads .empty start d rfl made
  exact ⟨plan, states, sound, starts⟩

end Automaton

/-! ### Paths -/

/-- A path is where its state may be come to, at a point that its bindings belong to. -/
def Path.Stands (plan : Plan) (p : Point) (path : Path) : Prop := plan.label path.state { p with slots := path.slots }

namespace Matcher

/-- What is bound was bound on the way to the goal. -/
def Found (goal : Point → Prop) (slots : Slots) : Prop := ∃ q, goal q ∧ q.slots = slots

/-- The paths stand at a point, and what was found is at the goal. -/
structure Proper (goal : Point → Prop) (plan : Plan) (p : Point) (progress : Progress) : Prop where
  stand : ∀ path ∈ progress.paths.toList, path.Stands plan p
  found : ∀ slots, progress.found = some slots → Found goal slots

variable {p : Point}

/-- Where a state goes on from a path, its ways lead. -/
theorem label_of_goes (keeps : a.Keeps content goal plan) {path : Path} (stands : path.Stands plan p) {st : State}
    (here : a.states[path.state]? = some st) {next : Nat} {q : Point}
    (goes : st.Goes content { p with slots := path.slots } next q) : plan.label next q :=
  (keeps.sound.goes path.state st (keeps.states ▸ here) (fun _ member => (List.not_mem_nil member).elim) _ next q
    stands goes).labelled

/-- Paths that are followed keep standing at the point. -/
theorem proper_spread (keeps : a.Keeps content goal plan) (round fuel : Nat) {todo : List Path} {progress : Progress}
    (stand : ∀ path ∈ todo, path.Stands plan p) (proper : Proper goal plan p progress) :
    Proper goal plan p (spread a content p.place? round fuel todo progress) := by
  fun_induction spread a content p.place? round fuel todo progress with
  | case1 => exact proper
  | case2 => exact proper
  | case3 fuel state slots others rounds paths found again ih =>
    exact ih (fun path member => stand path (List.mem_cons_of_mem _ member)) proper
  | case4 fuel state slots others _ paths found _ rounds goOn missing ih =>
    exact ih [] paths (fun path member => stand path (List.mem_cons_of_mem _ member)) ⟨proper.stand, proper.found⟩
  | case5 fuel state slots others _ paths found _ rounds goOn next here ih =>
    obtain ⟨stands, rest⟩ := List.forall_mem_cons.mp stand
    refine ih [⟨next, slots⟩] paths (List.forall_mem_cons.mpr ⟨?_, rest⟩) ⟨proper.stand, proper.found⟩
    exact label_of_goes keeps stands here (.inr ⟨rfl, .pass⟩)
  | case6 fuel state slots others _ paths found _ rounds goOn k next here ih =>
    obtain ⟨stands, rest⟩ := List.forall_mem_cons.mp stand
    refine ih _ paths (List.forall_mem_append.mpr ⟨?_, rest⟩) ⟨proper.stand, proper.found⟩
    split
    · rename_i holds
      refine List.forall_mem_singleton.mpr (label_of_goes keeps stands here (.inr ⟨rfl, ?_⟩))
      by_cases between : p.taken = 0
      · rw [show p.place? = some p.place from if_pos between] at holds
        exact .look between holds
      · rw [show p.place? = none from if_neg between] at holds
        cases holds
    · exact fun path member => (List.not_mem_nil member).elim
  | case7 fuel state slots others _ paths found _ rounds goOn preferLast nexts here ordered ih =>
    obtain ⟨stands, rest⟩ := List.forall_mem_cons.mp stand
    refine ih _ paths (List.forall_mem_append.mpr ⟨?_, rest⟩) ⟨proper.stand, proper.found⟩
    intro path member
    obtain ⟨next, among, rfl⟩ := List.mem_map.mp member
    have way : next ∈ nexts.toList := by
      dsimp only [ordered] at among
      split at among
      · exact List.mem_reverse.mp among
      · exact among
    exact label_of_goes keeps stands here (.inl (.fork way))
  | case8 fuel state slots others _ paths found _ rounds goOn slot next here ih =>
    obtain ⟨stands, rest⟩ := List.forall_mem_cons.mp stand
    refine ih [⟨next, _⟩] paths (List.forall_mem_cons.mpr ⟨?_, rest⟩) ⟨proper.stand, proper.found⟩
    exact label_of_goes keeps stands here (.inr ⟨rfl, .save⟩)
  | case9 fuel state slots others _ paths found _ rounds goOn st _ _ _ _ here ih =>
    obtain ⟨stands, rest⟩ := List.forall_mem_cons.mp stand
    refine ih [] _ rest ⟨?_, proper.found⟩
    simp only [Array.toList_push]
    exact List.forall_mem_append.mpr ⟨proper.stand, List.forall_mem_singleton.mpr stands⟩

/-- What is bound has no part in where the next octet leads. -/
theorem onward_with (slots : Slots) :
    ({ p with slots := slots } : Point).onward content = { p.onward content with slots := slots } := by
  have same : ({ p with slots := slots } : Point).octets content = p.octets content := rfl
  by_cases more : p.taken + 1 < (p.octets content).length
  · rw [Point.onward, Point.onward, same, if_pos more, if_pos more]
  · rw [Point.onward, Point.onward, same, if_neg more, if_neg more]

/-- Paths that take the next octet stand behind it. -/
theorem proper_advance (keeps : a.Keeps content goal plan) (round : Nat) {octet : Nat}
    (follows : p.octet? content = some octet) {paths : List Path} {progress : Progress}
    (stand : ∀ path ∈ paths, path.Stands plan p) (proper : Proper goal plan (p.onward content) progress) :
    Proper goal plan (p.onward content)
      (advance a content octet (p.onward content).place? round paths progress) := by
  -- A path that has a way on is followed behind the octet.
  have followed : ∀ (slots : Slots) (progress : Progress) (move : Move), Proper goal plan (p.onward content) progress →
      plan.label move.next (({ p with slots := slots } : Point).onward content) → Proper goal plan (p.onward content)
        (spread a content (p.onward content).place? round (a.size + 2) [⟨move.next, slots⟩] progress) := by
    intro slots progress move proper labelled
    refine proper_spread keeps round _ (List.forall_mem_singleton.mpr ?_) proper
    rw [onward_with] at labelled
    exact labelled
  fun_induction advance a content octet (p.onward content).place? round paths progress with
  | case1 => exact proper
  | case2 state slots others progress here ih =>
    have reached := keeps.sound.accepts state (keeps.states ▸ here) _ (stand _ (List.mem_cons_self ..))
    exact ⟨proper.stand, fun bound same => Option.some.inj same ▸ ⟨_, reached, rfl⟩⟩
  | case3 state slots others progress goOn move here ih =>
    obtain ⟨stands, rest⟩ := List.forall_mem_cons.mp stand
    refine ih _ rest ?_
    split
    · rename_i taken same
      obtain ⟨takes, rfl⟩ : move.takes octet = true ∧ move = taken := by simpa using same
      exact followed slots progress move proper (label_of_goes keeps stands here (.inr ⟨rfl, .octet takes follows⟩))
    · exact proper
  | case4 state slots others progress goOn moves here ih =>
    obtain ⟨stands, rest⟩ := List.forall_mem_cons.mp stand
    refine ih _ rest ?_
    split
    · rename_i taken same
      have takes : taken.takes octet = true := by simpa using List.find?_some same
      exact followed slots progress taken proper
        (label_of_goes keeps stands here (.inl (.octets (List.mem_of_find?_eq_some same) takes follows)))
    · exact proper
  | case5 state slots others progress goOn _ _ _ ih =>
    exact ih none (fun path member => stand path (List.mem_cons_of_mem _ member)) proper

/-- Paths that take the rest of a character stand behind it. -/
theorem proper_takeOctets (keeps : a.Keeps content goal plan) {octets : List Nat} (round : Nat) {progress : Progress}
    (rest : (p.octets content).drop p.taken = octets) (some_ : octets ≠ []) (proper : Proper goal plan p progress) :
    Proper goal plan ⟨p.place + 1, 0, p.slots⟩ (takeOctets a content (p.place + 1) octets round progress).2 := by
  induction octets generalizing p round progress with
  | nil => exact absurd rfl some_
  | cons octet others ih =>
    obtain ⟨rounds, paths, found⟩ := progress
    have inside : p.taken < (p.octets content).length := by
      by_contra beyond
      rw [List.drop_eq_nil_of_le (Nat.le_of_not_lt beyond)] at rest
      cases rest
    rw [List.drop_eq_getElem_cons inside, List.cons.injEq] at rest
    obtain ⟨first, behind⟩ := rest
    have follows : p.octet? content = some octet := by rw [Point.octet?, List.getElem?_eq_getElem inside, first]
    have fresh : Proper goal plan (p.onward content) ⟨rounds, #[], found⟩ :=
      ⟨fun path member => (List.not_mem_nil member).elim, proper.found⟩
    have advanced := proper_advance keeps (round + 1) follows proper.stand fresh
    rw [takeOctets]
    by_cases last : others = []
    · subst last
      have whole : p.onward content = ⟨p.place + 1, 0, p.slots⟩ := by
        rw [Point.onward, if_neg (Nat.not_lt_of_le (List.drop_eq_nil_iff.mp behind))]
      rw [whole] at advanced
      exact advanced
    · have within : p.onward content = { p with taken := p.taken + 1 } := by
        rw [Point.onward, if_pos (Nat.lt_of_not_le fun beyond => last (behind ▸ List.drop_eq_nil_of_le beyond))]
      rw [within] at advanced
      have none : (if others.isEmpty then some (p.place + 1) else none) =
          (⟨p.place, p.taken + 1, p.slots⟩ : Point).place? := by
        rw [if_neg (by simpa using last)]
        rfl
      rw [none]
      exact ih (p := ⟨p.place, p.taken + 1, p.slots⟩) (round + 1) behind last advanced

/-- Paths that take characters stand behind some of them. -/
theorem proper_takeChars (keeps : a.Keeps content goal plan) {cs : List Char} (place : Nat) (slots : Slots)
    (round : Nat) {progress : Progress} (rest : content.toList.drop place = cs)
    (proper : Proper goal plan ⟨place, 0, slots⟩ progress) :
    ∃ last, Proper goal plan last (takeChars a content cs place round progress) := by
  induction cs generalizing place round progress with
  | nil => exact ⟨_, proper⟩
  | cons c others ih =>
    have inside : place < content.toList.length := by
      by_contra beyond
      rw [List.drop_eq_nil_of_le (Nat.le_of_not_lt beyond)] at rest
      cases rest
    rw [List.drop_eq_getElem_cons inside, List.cons.injEq] at rest
    obtain ⟨first, behind⟩ := rest
    have octets : (⟨place, 0, slots⟩ : Point).octets content = Octets.ofNumber c.toNat := by
      have there : content[place]? = some c := by
        rw [← Array.getElem?_toList, List.getElem?_eq_getElem inside, first]
      simp [Point.octets, there]
    rw [takeChars]
    split
    · exact ⟨_, proper⟩
    · have whole := proper_takeOctets (p := ⟨place, 0, slots⟩) keeps round octets (Octets.ofNumber_ne_nil _) proper
      exact ih _ _ behind whole

/-- What a search finds was bound on the way to the goal. -/
theorem found_of_search (keeps : a.Keeps content goal plan) {slots : Slots} (searched : search a content = some slots) :
    Found goal slots := by
  have start : Proper goal plan ⟨0, 0, []⟩ ⟨.replicate a.states.size 0, #[], none⟩ :=
    ⟨fun path member => (List.not_mem_nil member).elim, fun _ none => by cases none⟩
  have first : ∀ path ∈ [(⟨a.start, []⟩ : Path)], path.Stands plan ⟨0, 0, []⟩ :=
    List.forall_mem_singleton.mpr keeps.starts.labelled
  have behind := proper_spread keeps 1 (a.size + 2) first start
  obtain ⟨last, proper⟩ := proper_takeChars keeps 0 [] 1 rfl behind
  unfold search at searched
  simp only [Option.orElse_eq_or, Option.orElse_eq_orElse] at searched
  rcases Option.or_eq_some_iff.mp searched with accepted | ⟨-, before⟩
  · obtain ⟨path, found, rfl⟩ := Option.map_eq_some_iff.mp accepted
    have stands := proper.stand path (List.mem_of_find?_eq_some found)
    have accepts := List.find?_some found
    split at accepts
    · rename_i here
      exact ⟨_, keeps.sound.accepts path.state (keeps.states ▸ here) _ stands, rfl⟩
    · cases accepts
  · exact proper.found slots before

end Matcher
end HttpExchange.Regex
