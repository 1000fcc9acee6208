import HttpExchange.Regex.Search

/-!
What patterns match, whatever takes it in. A match leads from a place in a text to another and binds groups on its way
(`Pattern.Matches`); which of several matches is preferred is left open. Sequences are brought into a plain form
without a change of what they match.
-/
namespace HttpExchange.Regex

/-- A place in a text, with what was bound on the way to it. -/
structure Mark where
  place : Nat
  slots : Slots

namespace Pattern

/-- A pattern matches from one mark to another. A loop matches what so many of its rounds in a row match. -/
inductive Matches (content : Array Char) : Pattern → Mark → Mark → Prop
  | empty (mark : Mark) : Matches content empty mark mark
  | text {cs : List Char} {place : Nat} {slots : Slots} (stands : cs <+: content.toList.drop place) :
      Matches content (text cs) ⟨place, slots⟩ ⟨place + cs.length, slots⟩
  | set {s : CharSet} {c : Char} {place : Nat} {slots : Slots} (stands : content[place]? = some c)
      (member : s.contains c.toNat) : Matches content (set s) ⟨place, slots⟩ ⟨place + 1, slots⟩
  | look {k : Look} {mark : Mark} (holds : k.holds content mark.place) : Matches content (look k) mark mark
  | group {index : Nat} {a : Pattern} {place last : Nat} {slots bound : Slots}
      (inside : Matches content a ⟨place, (2 * index, place) :: slots⟩ ⟨last, bound⟩) :
      Matches content (group index a) ⟨place, slots⟩ ⟨last, (2 * index + 1, last) :: bound⟩
  | loop {greedy : Bool} {least rounds : Nat} {most : Option Nat} {a : Pattern} {before after : Mark}
      (enough : least ≤ rounds) (bounded : ∀ bound, most = some bound → rounds ≤ max least bound)
      (inRow : Matches content (sequence (.replicate rounds a)) before after) :
      Matches content (loop greedy least most a) before after
  | none (mark : Mark) : Matches content (sequence []) mark mark
  | next {a : Pattern} {rest : List Pattern} {before between after : Mark} (first : Matches content a before between)
      (others : Matches content (sequence rest) between after) : Matches content (sequence (a :: rest)) before after
  | option {a : Pattern} {options : List Pattern} {before after : Mark} (member : a ∈ options)
      (taken : Matches content a before after) : Matches content (choice options) before after

variable {content : Array Char} {before after : Mark}

/-! ### Sequences -/

theorem matches_sequence_append {parts rest : List Pattern} :
    Matches content (sequence (parts ++ rest)) before after ↔
      ∃ between, Matches content (sequence parts) before between ∧ Matches content (sequence rest) between after := by
  induction parts generalizing before with
  | nil =>
    constructor
    · exact fun others => ⟨before, .none before, others⟩
    · rintro ⟨between, first, others⟩
      cases first
      exact others
  | cons a parts ih =>
    constructor
    · intro found
      cases found with
      | next first others =>
        obtain ⟨between, front, back⟩ := ih.mp others
        exact ⟨between, .next first front, back⟩
    · rintro ⟨between, front, back⟩
      cases front with
      | next first others => exact .next first (ih.mpr ⟨between, others, back⟩)

theorem matches_sequence_singleton {a : Pattern} (found : Matches content a before after) :
    Matches content (sequence [a]) before after := .next found (.none after)

/-- A text in two parts. -/
theorem matches_text_append {cs ds : List Char} (found : Matches content (text (cs ++ ds)) before after) :
    ∃ between, Matches content (text cs) before between ∧ Matches content (text ds) between after := by
  cases found with
  | @text _ place slots stands =>
    obtain ⟨rest, whole⟩ := stands
    refine ⟨⟨place + cs.length, slots⟩, .text ⟨ds ++ rest, by rw [← whole, List.append_assoc]⟩, ?_⟩
    rw [List.length_append, ← Nat.add_assoc]
    refine .text ⟨rest, ?_⟩
    rw [← List.drop_drop, ← whole, List.append_assoc, List.drop_left]

/-- What stands in front of others may be joined with them. -/
theorem matches_of_joinText {a : Pattern} {rest : List Pattern}
    (found : Matches content (sequence (joinText a rest)) before after) :
    Matches content (sequence (a :: rest)) before after := by
  unfold joinText at found
  split at found
  · exact .next (.empty before) found
  · cases found with
    | next first others =>
      obtain ⟨between, front, back⟩ := matches_text_append first
      exact .next front (.next back others)
  · exact found

theorem matches_of_foldr_joinText {parts : List Pattern}
    (found : Matches content (sequence (parts.foldr joinText [])) before after) :
    Matches content (sequence parts) before after := by
  induction parts generalizing before with
  | nil => exact found
  | cons a rest ih =>
    cases matches_of_joinText found with
    | next first others => exact .next first (ih others)

/-- The parts of a sequence stand for it among others. -/
def flattened (parts : List Pattern) : List Pattern :=
  parts.flatMap fun
    | sequence parts => parts
    | a => [a]

theorem matches_of_flattened {parts : List Pattern}
    (found : Matches content (sequence (flattened parts)) before after) :
    Matches content (sequence parts) before after := by
  induction parts generalizing before with
  | nil => exact found
  | cons a rest ih =>
    obtain ⟨between, first, others⟩ := matches_sequence_append.mp found
    refine .next ?_ (ih others)
    cases a <;> first
      | exact first
      | (cases first with | next first last => cases last; exact first)

/-- The parts of a sequence in its plain form. -/
def plainParts (parts : List Pattern) : List Pattern := (flattened parts).foldr joinText []

/-- A sequence is plain, unless it is of one part or none. -/
theorem ofSequence_cases (parts : List Pattern) :
    plainParts parts = [] ∧ ofSequence parts = empty ∨ plainParts parts = [ofSequence parts] ∨
      ofSequence parts = sequence (plainParts parts) := by
  unfold ofSequence plainParts flattened
  dsimp only
  split
  · exact .inl ⟨‹_›, rfl⟩
  · exact .inr (.inl ‹_›)
  · exact .inr (.inr rfl)

/-- The plain form of a sequence matches nothing else. -/
theorem matches_of_ofSequence {parts : List Pattern} (found : Matches content (ofSequence parts) before after) :
    Matches content (sequence parts) before after := by
  refine matches_of_flattened (matches_of_foldr_joinText ?_)
  change Matches content (sequence (plainParts parts)) before after
  rcases ofSequence_cases parts with ⟨none, plain⟩ | one | plain
  · rw [plain] at found
    cases found
    rw [none]
    exact .none before
  · rw [one]
    exact matches_sequence_singleton found
  · rwa [plain] at found

/-- What stands last does so in the plain form, so that there is something in front of it. -/
theorem foldr_joinText_ne_nil (parts : List Pattern) (k : Look) : (parts ++ [look k]).foldr joinText [] ≠ [] := by
  induction parts with
  | nil => simp [joinText]
  | cons a rest ih =>
    rw [List.cons_append, List.foldr_cons]
    unfold joinText
    split
    · exact ih
    · exact List.cons_ne_nil _ _
    · exact List.cons_ne_nil _ _

/-- What stands between the start of the text and a place begins at the start of the text. -/
theorem beginsText_ofSequence (a : Pattern) (k : Look) :
    (ofSequence [look .textStart, a, look k]).beginsText = true := by
  have plain : plainParts [look .textStart, a, look k] =
      look .textStart :: (flattened [a] ++ [look k]).foldr joinText [] := by
    rw [plainParts]
    have flat : flattened [look .textStart, a, look k] = look .textStart :: (flattened [a] ++ [look k]) := by
      simp [flattened]
    rw [flat, List.foldr_cons]
    rfl
  have more := foldr_joinText_ne_nil (flattened [a]) k
  rcases ofSequence_cases [look .textStart, a, look k] with ⟨none, -⟩ | one | sequence
  · rw [plain] at none
    cases none
  · rw [plain] at one
    exact absurd (List.cons.inj one).2 more
  · rw [sequence, plain]
    rfl

/-- Between the start and the end of a text a pattern matches all of it. -/
theorem matches_between {a : Pattern}
    (found : Matches content (ofSequence [look .textStart, a, look .textEnd]) before after) :
    before.place = 0 ∧ after.place = content.size ∧ Matches content a before after := by
  cases matches_of_ofSequence found with
  | next start others =>
    cases start with
    | look begins =>
      cases others with
      | next first last =>
        cases last with
        | next ending none =>
          cases none
          cases ending with
          | look ends => exact ⟨beq_iff_eq.mp begins, beq_iff_eq.mp ends, first⟩

/-! ### Groups -/

theorem groupsOfAll_append (parts rest : List Pattern) :
    groupsOfAll (parts ++ rest) = max (groupsOfAll parts) (groupsOfAll rest) := by
  induction parts with
  | nil => rw [List.nil_append, groupsOfAll, Nat.zero_max]
  | cons a parts ih => rw [List.cons_append, groupsOfAll, groupsOfAll, ih, Nat.max_assoc]

theorem groupsOfAll_joinText (a : Pattern) (rest : List Pattern) :
    groupsOfAll (joinText a rest) = max a.groups (groupsOfAll rest) := by
  unfold joinText
  split <;> simp [groupsOfAll, groups]

theorem groupsOfAll_foldr_joinText (parts : List Pattern) :
    groupsOfAll (parts.foldr joinText []) = groupsOfAll parts := by
  induction parts with
  | nil => rfl
  | cons a parts ih => rw [List.foldr_cons, groupsOfAll_joinText, ih, groupsOfAll]

theorem groupsOfAll_flattened (parts : List Pattern) : groupsOfAll (flattened parts) = groupsOfAll parts := by
  induction parts with
  | nil => rfl
  | cons a parts ih =>
    have front : flattened (a :: parts) = flattened [a] ++ flattened parts := by simp [flattened]
    rw [front, groupsOfAll_append, ih, groupsOfAll]
    cases a <;> simp [flattened, groupsOfAll, groups]

/-- The plain form of a sequence has its groups. -/
theorem groups_ofSequence (parts : List Pattern) : (ofSequence parts).groups = groupsOfAll parts := by
  rw [← groupsOfAll_flattened parts, ← groupsOfAll_foldr_joinText]
  change _ = groupsOfAll (plainParts parts)
  rcases ofSequence_cases parts with ⟨none, plain⟩ | one | plain
  · rw [none, plain, groups, groupsOfAll]
    all_goals nofun
  · rw [one, groupsOfAll, groupsOfAll, Nat.max_zero]
  · rw [plain, groups]

/-! ### What is bound -/

/-- What was bound before has no part in a match. -/
theorem Matches.bound {a : Pattern} (found : Matches content a before after) :
    ∃ bound, after.slots = bound ++ before.slots ∧
      ∀ slots, Matches content a ⟨before.place, slots⟩ ⟨after.place, bound ++ slots⟩ := by
  induction found with
  | empty mark => exact ⟨[], rfl, fun slots => .empty _⟩
  | text stands => exact ⟨[], rfl, fun slots => .text stands⟩
  | set stands member => exact ⟨[], rfl, fun slots => .set stands member⟩
  | look holds => exact ⟨[], rfl, fun slots => .look holds⟩
  | @group index a place last slots bound inside ih =>
    obtain ⟨inner, same, anywhere⟩ := ih
    refine ⟨(2 * index + 1, last) :: inner ++ [(2 * index, place)], ?_, fun slots => ?_⟩
    · simpa using same
    · have moved : Matches content (Pattern.group index a) _ _ := .group (anywhere ((2 * index, place) :: slots))
      simpa using moved
  | loop enough bounded inRow ih =>
    obtain ⟨bound, same, anywhere⟩ := ih
    exact ⟨bound, same, fun slots => .loop enough bounded (anywhere slots)⟩
  | none mark => exact ⟨[], rfl, fun slots => .none _⟩
  | next first others front back =>
    obtain ⟨bound, same, anywhere⟩ := front
    obtain ⟨more, further, everywhere⟩ := back
    refine ⟨more ++ bound, by rw [further, same, List.append_assoc], fun slots => ?_⟩
    rw [List.append_assoc]
    exact .next (anywhere slots) (everywhere _)
  | option member taken ih =>
    obtain ⟨bound, same, anywhere⟩ := ih
    exact ⟨bound, same, fun slots => .option member (anywhere slots)⟩

end Pattern
end HttpExchange.Regex
