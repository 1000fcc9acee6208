import HttpExchange.Router
import Mathlib

/-!
What a path resolves to, told by the calls that were made to add routes. Each call that is taken adds one route
behind all others, so a path belongs to the earliest call that binds it, and nothing that is called later takes it
away; a call that is refused might as well not have been made.
-/
namespace HttpExchange.Router
variable {α : Type}
open RoutePattern (flags anchored)
open Regex (Matcher)

/-- A call that adds a route. -/
structure Registration (α : Type) where
  pattern : String
  isRegex : Bool
  service : α

/-- The router behind a call: a refused one leaves it as it is. -/
def registered (r : Router α) (call : Registration α) : Router α :=
  match r.add call.pattern call.isRegex call.service with
  | .ok grown => grown
  | .error _ => r

/-- The router behind calls in turn. -/
def registeredAll (r : Router α) (calls : List (Registration α)) : Router α := calls.foldl registered r

namespace Registration

/-- The call is taken: its path starts with a slash, or its expression compiles. -/
inductive Taken (call : Registration α) : Prop
  | literal (plain : call.isRegex = false) (rooted : call.pattern.toList.head? = some '/') : Taken call
  | regex {matcher : Matcher} (marked : call.isRegex = true)
      (compiled : Matcher.compile flags (anchored call.pattern) = .ok matcher) : Taken call

/-- The route of the call matches a path and binds arguments: none for the path itself, one for each group of an
expression, which is empty for a group that took no part. -/
inductive Binds (call : Registration α) (path : String) : List String → Prop
  | literal (plain : call.isRegex = false) (rooted : call.pattern.toList.head? = some '/')
      (same : call.pattern = path) : Binds call path []
  | regex {matcher : Matcher} {groups : List (Option String)} {args : List String} (marked : call.isRegex = true)
      (compiled : Matcher.compile flags (anchored call.pattern) = .ok matcher)
      (matched : matcher.captures? path = some groups) (length : args.length = matcher.groups)
      (entries : ∀ i < matcher.groups, args[i]? = some (groups[i]?.join.getD "")) : Binds call path args

/-- What the call alone makes of a path. -/
def answer? (call : Registration α) (path : String) : Option (α × List String) :=
  match RoutePattern.ofText call.pattern call.isRegex with
  | .ok p => (p.arguments? path).map fun args => (call.service, args)
  | .error _ => none

end Registration

/-! ### One call -/

/-- A match gives each group one entry. -/
theorem length_captures {matcher : Matcher} {path : String} {groups : List (Option String)}
    (matched : matcher.captures? path = some groups) : groups.length = matcher.groups := by
  simp only [Matcher.captures?, Option.map_eq_some_iff] at matched
  obtain ⟨slots, -, rfl⟩ := matched
  rw [List.length_map, List.length_range]

/-- A list of texts is settled by an entry for each group. -/
theorem eq_texts_iff {groups : List (Option String)} {args : List String} :
    args = groups.map (·.getD "") ↔
      args.length = groups.length ∧ ∀ i < groups.length, args[i]? = some (groups[i]?.join.getD "") := by
  constructor
  · rintro rfl
    refine ⟨List.length_map _, fun i inside => ?_⟩
    rw [List.getElem?_map, List.getElem?_eq_getElem inside]
    rfl
  · rintro ⟨length, entries⟩
    refine List.ext_getElem? fun i => ?_
    by_cases inside : i < groups.length
    · rw [entries i inside, List.getElem?_map, List.getElem?_eq_getElem inside]
      rfl
    · rw [List.getElem?_eq_none (by omega), List.getElem?_eq_none (by rw [List.length_map]; omega)]

theorem ofText_regex {pattern : String} {matcher : Matcher}
    (compiled : Matcher.compile flags (anchored pattern) = .ok matcher) :
    RoutePattern.ofText pattern true = .ok (.regex matcher) := by
  rw [RoutePattern.ofText, if_pos rfl, compiled]

theorem ofText_literal {pattern : String} (rooted : pattern.toList.head? = some '/') :
    RoutePattern.ofText pattern false = .ok (.literal pattern) := by
  rw [RoutePattern.ofText, if_neg (by decide), if_pos rooted]

/-- A pattern that can be read is a rooted path or an expression that compiles. -/
theorem ofText_ok {pattern : String} {isRegex : Bool} {p : RoutePattern}
    (read : RoutePattern.ofText pattern isRegex = .ok p) :
    isRegex = false ∧ pattern.toList.head? = some '/' ∧ p = .literal pattern ∨
      isRegex = true ∧ ∃ matcher, Matcher.compile flags (anchored pattern) = .ok matcher ∧ p = .regex matcher := by
  cases isRegex with
  | false =>
    by_cases rooted : pattern.toList.head? = some '/'
    · rw [ofText_literal rooted, Except.ok.injEq] at read
      exact .inl ⟨rfl, rooted, read.symm⟩
    · simp [RoutePattern.ofText, rooted] at read
  | true =>
    cases compiled : Matcher.compile flags (anchored pattern) with
    | error fault => simp [RoutePattern.ofText, compiled] at read
    | ok matcher =>
      rw [ofText_regex compiled, Except.ok.injEq] at read
      exact .inr ⟨rfl, matcher, rfl, read.symm⟩

/-- A pattern that cannot be read is named by the error. -/
theorem ofText_error {pattern : String} {isRegex : Bool} {fault : Failure}
    (refused : RoutePattern.ofText pattern isRegex = .error fault) : ∃ why, fault = .routePattern pattern why := by
  unfold RoutePattern.ofText at refused
  split at refused
  · split at refused
    · cases refused
    · cases refused
      exact ⟨_, rfl⟩
  · split at refused
    · cases refused
    · cases refused
      exact ⟨_, rfl⟩

theorem taken_iff (call : Registration α) :
    call.Taken ↔ ∃ p, RoutePattern.ofText call.pattern call.isRegex = .ok p := by
  constructor
  · rintro (⟨plain, rooted⟩ | ⟨marked, compiled⟩)
    · exact ⟨_, by rw [plain, ofText_literal rooted]⟩
    · exact ⟨_, by rw [marked, ofText_regex compiled]⟩
  · rintro ⟨p, read⟩
    rcases ofText_ok read with ⟨plain, rooted, -⟩ | ⟨marked, matcher, compiled, -⟩
    · exact .literal plain rooted
    · exact .regex marked compiled

/-- A call answers for the paths that its route binds. -/
theorem answer?_eq_some_iff {call : Registration α} {path : String} {service : α} {args : List String} :
    call.answer? path = some (service, args) ↔ call.service = service ∧ call.Binds path args := by
  constructor
  · intro answered
    unfold Registration.answer? at answered
    cases read : RoutePattern.ofText call.pattern call.isRegex with
    | error fault => simp [read] at answered
    | ok p =>
      simp only [read, Option.map_eq_some_iff, Prod.mk.injEq] at answered
      obtain ⟨bound, arguments, rfl, rfl⟩ := answered
      refine ⟨rfl, ?_⟩
      rcases ofText_ok read with ⟨plain, rooted, rfl⟩ | ⟨marked, matcher, compiled, rfl⟩
      · simp only [RoutePattern.arguments?, Option.ite_none_right_eq_some, Option.some.injEq] at arguments
        obtain ⟨same, rfl⟩ := arguments
        exact .literal plain rooted same
      · simp only [RoutePattern.arguments?, Option.map_eq_some_iff] at arguments
        obtain ⟨groups, matched, texts⟩ := arguments
        obtain ⟨length, entries⟩ := eq_texts_iff.mp texts.symm
        rw [length_captures matched] at length entries
        exact .regex marked compiled matched length entries
  · rintro ⟨rfl, ⟨plain, rooted, same⟩ | @⟨matcher, groups, _, marked, compiled, matched, length, entries⟩⟩
    · rw [Registration.answer?, plain, ofText_literal rooted]
      simp [RoutePattern.arguments?, same]
    · rw [← length_captures matched] at length entries
      rw [Registration.answer?, marked, ofText_regex compiled, eq_texts_iff.mpr ⟨length, entries⟩]
      simp [RoutePattern.arguments?, matched]

theorem answer?_eq_none_iff {call : Registration α} {path : String} :
    call.answer? path = none ↔ ∀ args, ¬ call.Binds path args := by
  constructor
  · intro none args binds
    have answered := answer?_eq_some_iff.mpr ⟨rfl, binds⟩
    rw [none] at answered
    cases answered
  · intro unbound
    cases answered : call.answer? path with
    | none => rfl
    | some answer => exact absurd (answer?_eq_some_iff.mp answered).2 (unbound answer.2)

/-- Adding fails if the pattern cannot be read, and adds one route otherwise. -/
theorem add_eq (r : Router α) (call : Registration α) :
    r.add call.pattern call.isRegex call.service =
      match RoutePattern.ofText call.pattern call.isRegex with
      | .ok p => .ok ⟨r.routes ++ [⟨p, call.service⟩]⟩
      | .error fault => .error fault := by
  rw [add]
  cases RoutePattern.ofText call.pattern call.isRegex <;> rfl

/-- A path that is not resolved yet is resolved by the route of the next call. -/
theorem resolve_registered (r : Router α) (call : Registration α) (path : String) :
    (r.registered call).resolve path = (r.resolve path).or (call.answer? path) := by
  rw [registered, add_eq, Registration.answer?]
  cases RoutePattern.ofText call.pattern call.isRegex with
  | error fault => rw [Option.or_none]
  | ok p =>
    simp only [resolve, List.findSome?_append, List.findSome?_singleton]

/-! ### Calls in turn -/

theorem resolve_registeredAll (r : Router α) (calls : List (Registration α)) (path : String) :
    (r.registeredAll calls).resolve path = (r.resolve path).or (calls.findSome? (·.answer? path)) := by
  induction calls generalizing r with
  | nil => rw [registeredAll, List.foldl_nil, List.findSome?_nil, Option.or_none]
  | cons call rest ih =>
    rw [registeredAll, List.foldl_cons, ← registeredAll, ih, resolve_registered, Option.or_assoc]
    congr 1
    rw [List.findSome?_cons]
    cases call.answer? path <;> rfl

/-- What holds of the routes behind calls. -/
structure FirstMatch (calls : List (Registration α)) (r : Router α) : Prop where
  /-- A path belongs to the earliest call that binds it. -/
  resolved : ∀ path service args, r.resolve path = some (service, args) ↔
    ∃ before call after, calls = before ++ call :: after ∧ call.service = service ∧ call.Binds path args ∧
      ∀ earlier ∈ before, ∀ others, ¬ earlier.Binds path others
  /-- It belongs to none only if no call binds it. -/
  unresolved : ∀ path, r.resolve path = none ↔ ∀ call ∈ calls, ∀ args, ¬ call.Binds path args
  /-- A call that is taken adds one route. -/
  taken : ∀ call, call.Taken → (∃ grown, r.add call.pattern call.isRegex call.service = .ok grown) ∧
    (r.registered call).size = r.size + 1
  /-- Any other is refused with an error that names its pattern, and changes nothing. -/
  refused : ∀ call, ¬ call.Taken →
    (∃ why, r.add call.pattern call.isRegex call.service = .error (.routePattern call.pattern why)) ∧
      (r.registered call).size = r.size ∧ ∀ path, (r.registered call).resolve path = r.resolve path
  /-- What is called later leaves a path that is resolved where it is. -/
  stable : ∀ path answer later, r.resolve path = some answer → (r.registeredAll later).resolve path = some answer

/-- A path resolves to the earliest of the routes that were added and match it, with the arguments that this route
binds, whatever else was added or refused before and after. -/
theorem firstMatch_registeredAll (calls : List (Registration α)) :
    FirstMatch calls ((empty : Router α).registeredAll calls) where
  resolved path service args := by
    rw [resolve_registeredAll, show (empty : Router α).resolve path = none from rfl, Option.none_or,
      List.findSome?_eq_some_iff]
    simp only [answer?_eq_some_iff, answer?_eq_none_iff, and_assoc]
  unresolved path := by
    rw [resolve_registeredAll, show (empty : Router α).resolve path = none from rfl, Option.none_or,
      List.findSome?_eq_none_iff]
    simp only [answer?_eq_none_iff]
  taken call taken := by
    obtain ⟨p, read⟩ := (taken_iff call).mp taken
    have added := add_eq (empty.registeredAll calls) call
    rw [read] at added
    refine ⟨⟨_, added⟩, ?_⟩
    simp only [registered, added, size, List.length_append, List.length_singleton]
  refused call untaken := by
    cases read : RoutePattern.ofText call.pattern call.isRegex with
    | ok p => exact absurd ((taken_iff call).mpr ⟨p, read⟩) untaken
    | error fault =>
      obtain ⟨why, rfl⟩ := ofText_error read
      have same := add_eq (empty.registeredAll calls) call
      rw [read] at same
      refine ⟨⟨why, same⟩, ?_⟩
      rw [registered, same]
      exact ⟨rfl, fun path => rfl⟩
  stable path answer later found := by
    rw [resolve_registeredAll, found, Option.some_or]

/-- A path that is added twice stays with the first, and a path without a slash is left out. -/
example :
    let r := (empty : Router Nat).registeredAll [⟨"me", false, 1⟩, ⟨"/me", false, 2⟩, ⟨"/me", false, 3⟩]
    r.size = 2 ∧ r.resolve "/me" = some (2, []) ∧ r.resolve "me" = none := by decide

end HttpExchange.Router
