import HttpExchange.Proofs.Regex.Search
import HttpExchange.Proofs.Regex.Wrapping
import HttpExchange.Proofs.Router

/-!
What the route of an expression matches. The expression stands between anchors that are put around its text, and all
depends on whether the text is an expression by itself. If it is, the anchors leave it as it is, and a path that goes to
the route is matched from end to end. If it is not, its brackets may pair with those of the anchors, which then hold
for parts of it only.
-/
namespace HttpExchange.Router
variable {α : Type}
open RoutePattern (flags anchored)
open Regex (Matcher Automaton Slots Pattern)
open Regex.Matcher (capture?)

/-- A match of an expression takes a path from its start to its end. -/
def Spans (q : Pattern) (path : String) (slots : Slots) : Prop :=
  q.Matches path.toList.toArray ⟨0, []⟩ ⟨path.toList.length, slots⟩

/-- The texts of an expression's groups, of which those that took no part are empty. -/
def groupTexts (q : Pattern) (path : String) (slots : Slots) : List String :=
  (List.range q.groups).map fun i => (capture? path.toList.toArray slots (i + 1)).getD ""

/-- What holds of a route with an expression that is added behind others. -/
structure WholePaths (r grown : Router α) (pattern : String) (service : α) (q : Pattern) : Prop where
  /-- The text is an expression by itself, in which letter case does not count. -/
  readable : Pattern.ofText? flags pattern = some q
  /-- It is the same expression between the anchors. -/
  kept : Pattern.ofText? flags (anchored pattern) = some (.ofSequence [.look .textStart, q, .look .textEnd])
  /-- A path that goes to the route, whatever else is added, is matched as a whole, and its arguments are the groups of
  the expression. -/
  whole : ∀ path later answer, r.resolve path = none → grown.resolve path = some answer →
    (grown.registeredAll later).resolve path = some answer ∧ answer.1 = service ∧
      ∃ slots, Spans q path slots ∧ answer.2 = groupTexts q path slots

/-! ### Between the anchors -/

/-- What compiles is a pattern, and an automaton for it. -/
theorem compile_ok {settings : Regex.Flags} {text : String} {matcher : Matcher}
    (compiled : Matcher.compile settings text = .ok matcher) :
    ∃ p a, Pattern.ofText? settings text = some p ∧ Automaton.ofPattern? false p = some a ∧
      matcher = ⟨p.groups, a⟩ := by
  unfold Matcher.compile at compiled
  split at compiled
  · cases compiled
  · rename_i p read
    split at compiled
    · cases compiled
    · rename_i a built
      split at compiled
      · cases compiled
        exact ⟨p, a, read, built, rfl⟩
      · cases compiled

/-- The ends of the whole match stand in no other group's slots. -/
theorem capture?_within (content : Array Char) (bound : Slots) (group first last : Nat) :
    capture? content ((1, last) :: (bound ++ [(0, first)])) (group + 1) = capture? content bound (group + 1) := by
  have others : ∀ slot, slot ≠ 0 → slot ≠ 1 →
      List.lookup slot ((1, last) :: (bound ++ [(0, first)])) = bound.lookup slot := by
    intro slot start ending
    rw [List.lookup_cons, beq_eq_false_iff_ne.mpr ending]
    simp [List.lookup_append, start]
  rw [capture?, capture?, others (2 * (group + 1)) (by omega) (by omega),
    others (2 * (group + 1) + 1) (by omega) (by omega)]

/-- An expression that can be read by itself matches from end to end what it matches between the anchors, with the same
groups. -/
theorem spans_of_captures? {pattern path : String} {q : Pattern} {matcher : Matcher} {groups : List (Option String)}
    (read : Pattern.ofText? flags pattern = some q)
    (compiled : Matcher.compile flags (anchored pattern) = .ok matcher)
    (matched : matcher.captures? path = some groups) :
    ∃ slots, Spans q path slots ∧ groups.map (·.getD "") = groupTexts q path slots := by
  obtain ⟨p, a, read', built, rfl⟩ := compile_ok compiled
  obtain rfl := Pattern.eq_of_ofText?_wrapped read read'
  obtain ⟨slots, searched, rfl⟩ := Option.map_eq_some_iff.mp matched
  have begins := Pattern.beginsText_ofSequence q (Regex.Reading.dollar flags)
  obtain ⟨plan, keeps⟩ := Automaton.keeps_ofPattern begins built
  obtain ⟨⟨last, taken, bound⟩, ⟨-, found⟩, rfl⟩ := Matcher.found_of_search keeps searched
  dsimp only at found
  cases found with
  | group inside =>
    obtain ⟨-, ends, whole⟩ := Pattern.matches_between inside
    obtain ⟨slots, rfl, anywhere⟩ := whole.bound
    refine ⟨slots, ?_, ?_⟩
    · have moved := anywhere []
      rwa [List.append_nil, ends] at moved
    · have same (k l : Regex.Look) : (Pattern.ofSequence [.look k, q, .look l]).groups = q.groups := by
        rw [Pattern.groups_ofSequence]
        simp [Pattern.groupsOfAll, Pattern.groups]
      rw [groupTexts, same, List.map_map]
      exact List.map_congr_left fun i _ => congrArg (·.getD "") (capture?_within _ slots i 0 last)

/-! ### The route among others -/

/-- A call that is not refused leaves the router that is registered. -/
theorem add_eq_registered (r : Router α) (call : Registration α)
    (taken : (r.add call.pattern call.isRegex call.service).toOption.isSome) :
    r.add call.pattern call.isRegex call.service = .ok (r.registered call) := by
  unfold registered
  cases added : r.add call.pattern call.isRegex call.service with
  | ok grown => rfl
  | error fault =>
    rw [added] at taken
    cases taken

/-- A route with an expression is added if the expression compiles between the anchors. -/
theorem compile_of_add {r grown : Router α} {pattern : String} {service : α}
    (added : r.add pattern true service = .ok grown) :
    grown = r.registered ⟨pattern, true, service⟩ ∧
      ∃ matcher, Matcher.compile flags (anchored pattern) = .ok matcher := by
  refine ⟨by rw [registered, added], ?_⟩
  rw [add_eq r ⟨pattern, true, service⟩] at added
  cases read : RoutePattern.ofText pattern true with
  | error fault => simp [read] at added
  | ok p =>
    rcases ofText_ok read with ⟨literal, -⟩ | ⟨-, matcher, compiled, -⟩
    · cases literal
    · exact ⟨matcher, compiled⟩

/-- A path that goes to the route of an expression is matched as a whole, in every router and whatever else is added,
exactly when the text of the expression is one by itself. -/
theorem wholePaths_iff_readable {r grown : Router α} {pattern : String} {service : α}
    (added : r.add pattern true service = .ok grown) :
    (∃ q, WholePaths r grown pattern service q) ↔ (Pattern.ofText? flags pattern).isSome := by
  constructor
  · rintro ⟨q, whole⟩
    rw [whole.readable]
    rfl
  · intro readable
    obtain ⟨q, read⟩ := Option.isSome_iff_exists.mp readable
    obtain ⟨rfl, matcher, compiled⟩ := compile_of_add added
    obtain ⟨_, -, kept, -, -⟩ := compile_ok compiled
    obtain rfl := Pattern.eq_of_ofText?_wrapped read kept
    refine ⟨q, read, kept, fun path later ⟨server, args⟩ free selected => ⟨?_, ?_⟩⟩
    · rw [resolve_registeredAll, selected, Option.some_or]
    · rw [resolve_registered, free, Option.none_or] at selected
      obtain ⟨rfl, ⟨plain, -⟩ | ⟨-, compiled, matched, length, entries⟩⟩ := answer?_eq_some_iff.mp selected
      · cases plain
      · obtain ⟨slots, spans, texts⟩ := spans_of_captures? read compiled matched
        rw [← length_captures matched] at length entries
        exact ⟨rfl, slots, spans, (eq_texts_iff.mpr ⟨length, entries⟩).trans texts⟩

/-- A group that may be left out is empty where it is, and nothing may follow. -/
theorem wholePaths_iff_readable_users :
    let grown := (empty : Router Nat).registered ⟨"(?-i)/users(/me)?", true, 7⟩
    empty.add "(?-i)/users(/me)?" true 7 = .ok grown ∧ grown.resolve "/users/me" = some (7, ["/me"]) ∧
      grown.resolve "/users" = some (7, [""]) ∧ grown.resolve "/users/me/too" = none ∧
      ∃ q, WholePaths empty grown "(?-i)/users(/me)?" 7 q := by
  intro grown
  have added := add_eq_registered empty (⟨"(?-i)/users(/me)?", true, 7⟩ : Registration Nat) (by decide +kernel)
  exact ⟨added, by decide +kernel, by decide +kernel, by decide +kernel,
    (wholePaths_iff_readable added).mpr (by decide +kernel)⟩

/-- A text that closes the bracket of the anchors and opens another is added though it is no expression, and its route
takes every path without a look at it. -/
theorem not_wholePaths_unbalanced :
    let grown := (empty : Router Nat).registered ⟨")|(?:", true, 7⟩
    empty.add ")|(?:" true 7 = .ok grown ∧ Pattern.ofText? flags ")|(?:" = none ∧
      grown.resolve "/me" = some (7, []) := by
  intro grown
  exact ⟨add_eq_registered empty (⟨")|(?:", true, 7⟩ : Registration Nat) (by decide +kernel),
    Option.isNone_iff_eq_none.mp (by decide +kernel), by decide +kernel⟩

end HttpExchange.Router
