import HttpExchange.Text.Basic
import Mathlib

/-!
What is taken apart at white space or at a character comes apart where it was put together: trimming takes
nothing from a trimmed text, the words of a text are those it was joined from, and a text is cut at the first
occurrence of a character.
-/
namespace HttpExchange.Text

/-- No CR LF stands in the text. -/
def OneLine (s : String) : Prop := ¬ ['\r', '\n'] <:+: s.toList

instance : DecidablePred OneLine := fun _ => inferInstanceAs (Decidable (¬ _))

/-- No character of the text is white space. -/
def Blankless (s : String) : Prop := ∀ c ∈ s.toList, ¬ isBlank c

instance : DecidablePred Blankless := fun _ => List.decidableBAll _ _

/-! ### Trimming -/

theorem trimWhere_cons {p : Char → Bool} {c : Char} (member : p c) (cs : List Char) :
    trimWhere p (c :: cs) = trimWhere p cs := by
  rw [trimWhere, trimWhere, List.dropWhile_cons_of_pos member]

theorem trimWhere_of_none {p : Char → Bool} {cs : List Char} (none : ∀ c ∈ cs, ¬ p c) : trimWhere p cs = cs := by
  have kept : ∀ {list : List Char}, (∀ c ∈ list, ¬ p c) → list.dropWhile p = list := by
    intro list absent
    cases list with
    | nil => rfl
    | cons c rest => exact List.dropWhile_cons_of_neg (absent c (by simp))
  have reversed : ∀ c ∈ cs.reverse, ¬ p c := fun c member => none c (List.mem_reverse.mp member)
  rw [trimWhere, kept none, kept reversed, List.reverse_reverse]

theorem trim_of_blankless {s : String} (blankless : Blankless s) : trim s = s := by
  rw [trim, trimWhere_of_none blankless, String.ofList_toList]

/-- A space before a text does not survive trimming. -/
theorem trim_space_append (s : String) : trim (" " ++ s) = trim s := by
  unfold trim
  rw [String.toList_append]
  exact congrArg String.ofList (trimWhere_cons (by decide) s.toList)

theorem prefix_trimWhere (p : Char → Bool) (cs : List Char) : trimWhere p cs <+: cs.dropWhile p := by
  rw [trimWhere, ← List.reverse_suffix, List.reverse_reverse]
  exact List.dropWhile_suffix p

theorem infix_toList_trim (s : String) : (trim s).toList <:+: s.toList := by
  rw [trim, String.toList_ofList]
  exact (prefix_trimWhere isBlank s.toList).isInfix.trans (List.dropWhile_suffix isBlank).isInfix

/-- What is trimmed begins and ends with characters that stay. -/
theorem trimWhere_trimWhere (p : Char → Bool) (cs : List Char) : trimWhere p (trimWhere p cs) = trimWhere p cs := by
  have front : (trimWhere p cs).dropWhile p = trimWhere p cs := by
    have kept := prefix_trimWhere p cs
    cases trimmed : trimWhere p cs with
    | nil => rfl
    | cons c rest =>
      rw [trimmed] at kept
      obtain ⟨more, whole⟩ := kept
      have stop := List.head_dropWhile_not p (l := cs) (by rw [← whole]; simp)
      simp only [← whole, List.cons_append, List.head_cons] at stop
      exact List.dropWhile_cons_of_neg (by simp [stop])
  rw [trimWhere, front, trimWhere, List.reverse_reverse, List.dropWhile_idempotent]

theorem trim_trim (s : String) : trim (trim s) = trim s := by
  rw [trim, trim, String.toList_ofList, trimWhere_trimWhere]

/-! ### Cutting -/

/-- A text is cut at the first occurrence of a character. -/
theorem cut?_eq_some_iff {c : Char} {s before after : String} :
    cut? c s = some (before, after) ↔ s.toList = before.toList ++ c :: after.toList ∧ c ∉ before.toList := by
  unfold cut?
  rw [List.span_eq_takeWhile_dropWhile]
  constructor
  · intro found
    split at found
    · cases found
    · rename_i left d right halves
      obtain ⟨rfl, dropped⟩ := Prod.mk.inj halves
      simp only [Option.some.injEq, Prod.mk.injEq] at found
      obtain ⟨rfl, rfl⟩ := found
      have stop := List.head_dropWhile_not (· != c) (l := s.toList) (by rw [dropped]; simp)
      simp only [dropped, List.head_cons, bne_eq_false_iff_eq] at stop
      subst stop
      simp only [String.toList_ofList]
      refine ⟨?_, fun member => ?_⟩
      · rw [← dropped, List.takeWhile_append_dropWhile]
      · simpa using List.mem_takeWhile_imp member
  · rintro ⟨parts, absent⟩
    have all : ∀ d ∈ before.toList, (d != c) = true := fun d member => by
      simpa using fun same : d = c => absent (same ▸ member)
    rw [parts, List.takeWhile_append_of_pos all, List.dropWhile_append_of_pos all]
    simp

/-- A text put together at a character comes apart there. -/
theorem cut?_append {c : Char} {before : String} (absent : c ∉ before.toList) {between : String}
    (single : between.toList = [c]) (after : String) :
    cut? c (before ++ between ++ after) = some (before, after) := by
  refine cut?_eq_some_iff.mpr ⟨?_, absent⟩
  simp [String.toList_append, single]

/-! ### Words -/

theorem splitWhere_ne_nil {α : Type} {p : α → Bool} (xs : List α) : splitWhere p xs ≠ [] := by
  cases xs with
  | nil => simp [splitWhere]
  | cons x rest =>
    rw [splitWhere, List.foldr_cons]
    split
    · simp
    · split <;> simp

theorem splitWhere_cons_of_pos {α : Type} {p : α → Bool} {x : α} (parts : p x) (rest : List α) :
    splitWhere p (x :: rest) = [] :: splitWhere p rest := by
  unfold splitWhere
  rw [List.foldr_cons, if_pos parts]

/-- What is in no class stands in front of the first part of the rest. -/
theorem splitWhere_cons_of_neg {α : Type} {p : α → Bool} {x : α} (kept : ¬ p x) (rest : List α) :
    ∃ first others, splitWhere p rest = first :: others ∧ splitWhere p (x :: rest) = (x :: first) :: others := by
  obtain ⟨first, others, split⟩ : ∃ first others, splitWhere p rest = first :: others :=
    List.exists_cons_of_ne_nil (splitWhere_ne_nil rest)
  refine ⟨first, others, split, ?_⟩
  unfold splitWhere at split ⊢
  rw [List.foldr_cons, split, if_neg kept]

theorem splitWhere_of_none {α : Type} {p : α → Bool} {xs : List α} (none : ∀ x ∈ xs, ¬ p x) :
    splitWhere p xs = [xs] := by
  induction xs with
  | nil => rfl
  | cons x rest ih =>
    obtain ⟨first, others, split, longer⟩ := splitWhere_cons_of_neg (none x (by simp)) rest
    rw [ih fun y member => none y (by simp [member])] at split
    obtain ⟨rfl, rfl⟩ := List.cons.inj split
    exact longer

/-- The first part ends at the first member of the class. -/
theorem splitWhere_append {α : Type} {p : α → Bool} {xs : List α} (none : ∀ x ∈ xs, ¬ p x) {y : α} (parts : p y)
    (rest : List α) : splitWhere p (xs ++ y :: rest) = xs :: splitWhere p rest := by
  induction xs with
  | nil => exact splitWhere_cons_of_pos parts rest
  | cons x xs ih =>
    obtain ⟨first, others, split, longer⟩ := splitWhere_cons_of_neg (none x (by simp)) (xs ++ y :: rest)
    rw [ih fun y member => none y (by simp [member])] at split
    obtain ⟨rfl, rfl⟩ := List.cons.inj split
    exact longer

theorem splitWhere_eq_splitOnP {α : Type} (p : α → Bool) (xs : List α) : splitWhere p xs = xs.splitOnP p := by
  induction xs with
  | nil => simp [splitWhere]
  | cons x rest ih =>
    rw [List.splitOnP_cons_eq_if_modifyHead]
    by_cases parts : p x
    · rw [if_pos parts, splitWhere_cons_of_pos parts, ih]
    · obtain ⟨first, others, split, longer⟩ := splitWhere_cons_of_neg parts rest
      rw [if_neg parts, longer, ← ih, split]
      rfl

theorem words_of_blankless {s : String} (blankless : Blankless s) (nonempty : s.toList ≠ []) : words s = [s] := by
  simp [words, splitWhere_of_none blankless, nonempty]

/-- A word before a space is the first word. -/
theorem words_append {s : String} (blankless : Blankless s) (nonempty : s.toList ≠ []) (rest : String) :
    words (s ++ " " ++ rest) = s :: words rest := by
  have split : splitWhere isBlank (s ++ " " ++ rest).toList = s.toList :: splitWhere isBlank rest.toList := by
    simpa [String.toList_append] using splitWhere_append blankless (y := ' ') (by decide) rest.toList
  rw [words, split, List.filter_cons_of_pos (by simpa using nonempty), List.map_cons, String.ofList_toList]
  rfl

/-- No part holds a member of the class. -/
theorem not_of_mem_splitWhere {α : Type} {p : α → Bool} {xs part : List α} (member : part ∈ splitWhere p xs) {x : α}
    (inside : x ∈ part) : ¬ p x := by
  induction xs generalizing part with
  | nil =>
    rw [splitWhere, List.foldr_nil, List.mem_singleton] at member
    simp [member] at inside
  | cons y rest ih =>
    by_cases parts : p y
    · rw [splitWhere_cons_of_pos parts, List.mem_cons] at member
      rcases member with rfl | later
      · simp at inside
      · exact ih later inside
    · obtain ⟨first, others, split, longer⟩ := splitWhere_cons_of_neg parts rest
      rw [longer, List.mem_cons] at member
      rcases member with rfl | later
      · rcases List.mem_cons.mp inside with rfl | within
        · exact parts
        · exact ih (by simp [split]) within
      · exact ih (by simp [split, later]) inside

/-- A word is not empty, and no white space is in it. -/
theorem of_mem_words {s word : String} (member : word ∈ words s) : word.toList ≠ [] ∧ Blankless word := by
  obtain ⟨part, found, rfl⟩ := List.mem_map.mp member
  obtain ⟨parted, nonempty⟩ := List.mem_filter.mp found
  rw [Blankless, String.toList_ofList]
  exact ⟨by simpa using nonempty, fun c inside => not_of_mem_splitWhere parted inside⟩

/-! ### Lines -/

/-- A part of one line is one line. -/
theorem OneLine.of_part {s part : String} (oneLine : OneLine s) (inside : part.toList <:+: s.toList) : OneLine part :=
  fun ends => oneLine (ends.trans inside)

theorem OneLine.trim {s : String} (oneLine : OneLine s) : OneLine (trim s) := oneLine.of_part (infix_toList_trim s)

/-- The halves of one line are one line each. -/
theorem OneLine.of_cut? {c : Char} {s before after : String} (oneLine : OneLine s)
    (halves : cut? c s = some (before, after)) : OneLine before ∧ OneLine after := by
  obtain ⟨parts, -⟩ := cut?_eq_some_iff.mp halves
  refine ⟨oneLine.of_part ⟨[], c :: after.toList, by rw [parts]; rfl⟩, oneLine.of_part ⟨before.toList ++ [c], [], ?_⟩⟩
  rw [parts]
  simp

theorem not_infix_of_notMem {c d : Char} {cs : List Char} (absent : c ∉ cs) : ¬ [c, d] <:+: cs :=
  fun inside => absent (inside.mem (by simp))

theorem oneLine_of_blankless {s : String} (blankless : Blankless s) : OneLine s :=
  not_infix_of_notMem fun member => blankless '\r' member (by decide)

/-- Lines put together at a character that is neither CR nor LF are one line. -/
theorem oneLine_append {before between after : String} (first : OneLine before) (second : OneLine after) {c : Char}
    (single : between.toList = [c]) (cr : c ≠ '\r') (lf : c ≠ '\n') : OneLine (before ++ between ++ after) := by
  unfold OneLine at *
  rw [String.toList_append, String.toList_append, single, List.append_assoc, List.singleton_append]
  rintro ⟨left, right, parts⟩
  rw [List.append_assoc, List.append_eq_append_iff] at parts
  rcases parts with ⟨more, whole, rest⟩ | ⟨more, whole, rest⟩
  · match more, rest with
    | [], rest => exact cr (List.cons.inj rest).1.symm
    | [_], rest => exact lf (List.cons.inj (List.cons.inj rest).2).1.symm
    | _ :: _ :: more, rest =>
      simp only [List.cons_append, List.nil_append, List.cons.injEq] at rest
      obtain ⟨rfl, rfl, -⟩ := rest
      exact first ⟨left, more, by rw [whole]; simp⟩
  · match more, rest with
    | [], rest => exact cr (List.cons.inj rest).1
    | _ :: more, rest =>
      rw [List.cons_append, List.cons.injEq] at rest
      exact second ⟨more, right, by rw [rest.2, List.append_assoc]⟩

end HttpExchange.Text
