import HttpExchange.Regex.Reader
import Mathlib.Tactic.SplitIfs

/-!
Patterns read with a closing bracket and a dollar sign behind their text. What the text by itself is read as stays as it
is, except that a comment may run on over what is put behind it.
-/
namespace HttpExchange.Regex

/-- What is put behind a pattern. -/
def ending : List Char := [')', '$']

/-- A rest of the text with the ending behind it; or no rest at all, where a comment runs to the end. -/
def Follows (rest rest' : List Char) : Prop := rest' = rest ++ ending ∨ rest = [] ∧ rest' = []

namespace Follows
variable {cs cs' : List Char}

theorem append (cs : List Char) : Follows cs (cs ++ ending) := .inl rfl

theorem eq_of_cons {c : Char} {rest : List Char} (follows : Follows (c :: rest) cs') : cs' = c :: (rest ++ ending) := by
  rcases follows with same | ⟨none, -⟩
  · exact same
  · cases none

theorem eq_of_ne_nil (follows : Follows cs cs') (some_ : cs ≠ []) : cs' = cs ++ ending := by
  rcases follows with same | ⟨none, -⟩
  · exact same
  · exact absurd none some_

end Follows

/-- A text begins with a character if it does so with the ending behind it. -/
theorem exists_of_cons {ds behind : List Char} {c : Char} (other : c ≠ ')') (same : ds ++ ending = c :: behind) :
    ∃ rest, ds = c :: rest := by
  cases ds with
  | nil => exact absurd (List.cons.inj same).1.symm other
  | cons d more => exact ⟨more, congrArg (· :: more) (List.cons.inj same).1⟩

theorem exists_of_cons_cons {ds behind : List Char} {c d : Char} (first : c ≠ ')') (second : d ≠ ')')
    (same : ds ++ ending = c :: d :: behind) : ∃ rest, ds = c :: d :: rest := by
  obtain ⟨more, rfl⟩ := exists_of_cons first same
  obtain ⟨rest, rfl⟩ := exists_of_cons second (List.cons.inj same).2
  exact ⟨rest, rfl⟩

theorem dropWhile_append {p : Char → Bool} {cs : List Char} (some_ : cs.dropWhile p ≠ []) :
    (cs ++ ending).dropWhile p = cs.dropWhile p ++ ending := by
  rw [List.dropWhile_append, if_neg (by simpa using some_)]

/-! ### Space -/

theorem follows_skipSpace (inComment : Bool) (cs : List Char) :
    Follows (skipSpace inComment cs) (skipSpace inComment (cs ++ ending)) := by
  induction cs generalizing inComment with
  | nil =>
    cases inComment with
    | false => exact .inl (by decide)
    | true => exact .inr ⟨rfl, by decide⟩
  | cons c rest ih =>
    rw [List.cons_append, skipSpace, skipSpace]
    split_ifs
    · exact ih _
    · exact ih _
    · exact ih _
    · exact .inl rfl

namespace Flags
variable (flags : Flags)

theorem follows_skip (cs : List Char) : Follows (flags.skip cs) (flags.skip (cs ++ ending)) := by
  unfold skip
  split
  · exact follows_skipSpace false cs
  · exact .inl rfl

theorem skip_append {cs : List Char} (some_ : flags.skip cs ≠ []) :
    flags.skip (cs ++ ending) = flags.skip cs ++ ending :=
  (flags.follows_skip cs).eq_of_ne_nil some_

theorem skip_nil : flags.skip [] = [] := by
  unfold skip
  split <;> rfl

variable {p : Char → Bool}

theorem takeWhere_zero (cs : List Char) : flags.takeWhere p cs 0 = ([], flags.skip cs) := by rw [takeWhere]

theorem takeWhere_nil (count : Nat) : flags.takeWhere p [] count = ([], []) := by
  cases count with
  | zero => rw [takeWhere_zero, skip_nil]
  | succ count => simp [takeWhere, skip_nil]

theorem takeWhere_of_nil {cs : List Char} (next : flags.skip cs = []) (count : Nat) :
    flags.takeWhere p cs (count + 1) = ([], []) := by
  rw [takeWhere]
  exact next

theorem takeWhere_of_cons {cs rest : List Char} {c : Char} (next : flags.skip cs = c :: rest) (count : Nat) :
    flags.takeWhere p cs (count + 1) =
      if p c then (c :: (flags.takeWhere p rest count).1, (flags.takeWhere p rest count).2)
      else ([], c :: rest) := by
  rw [takeWhere.eq_def]
  simp only [next]

theorem length_takeWhere_le (cs : List Char) (count : Nat) : (flags.takeWhere p cs count).1.length ≤ count := by
  induction count generalizing cs with
  | zero => rw [takeWhere_zero]; exact Nat.le_refl 0
  | succ count ih =>
    cases next : flags.skip cs with
    | nil => rw [flags.takeWhere_of_nil next]; exact Nat.zero_le _
    | cons c rest =>
      rw [flags.takeWhere_of_cons next]
      split
      · exact Nat.succ_le_succ (ih rest)
      · exact Nat.zero_le _

/-- Characters of a class that end before the text does, or are as many as there may be, are taken all the same. -/
theorem takeWhere_append {cs taken rest : List Char} {count : Nat}
    (took : flags.takeWhere p cs count = (taken, rest)) (ends : rest ≠ [] ∨ taken.length = count) :
    ∃ rest', flags.takeWhere p (cs ++ ending) count = (taken, rest') ∧ Follows rest rest' := by
  induction count generalizing cs taken with
  | zero =>
    rw [takeWhere_zero] at took
    cases took
    exact ⟨_, flags.takeWhere_zero _, flags.follows_skip cs⟩
  | succ count ih =>
    cases next : flags.skip cs with
    | nil =>
      rw [flags.takeWhere_of_nil next] at took
      cases took
      simp at ends
    | cons c others =>
      have next' := flags.skip_append (next ▸ List.cons_ne_nil c others)
      rw [next] at next'
      rw [flags.takeWhere_of_cons next']
      rw [flags.takeWhere_of_cons next] at took
      split at took
      · rename_i member
        cases took
        obtain ⟨rest', took', follows⟩ := @ih others _ rfl (by simpa using ends)
        exact ⟨rest', by simp [member, took'], follows⟩
      · rename_i member
        cases took
        exact ⟨_, by simp [member], .append _⟩

/-- Characters are taken to the end of the text by any count that is large enough. -/
theorem takeWhere_of_length_le {cs : List Char} {count more : Nat} (enough : cs.length ≤ count)
    (plenty : cs.length ≤ more) :
    flags.takeWhere p cs count = flags.takeWhere p cs more := by
  induction count generalizing cs more with
  | zero =>
    obtain rfl := List.length_eq_zero_iff.mp (Nat.le_zero.mp enough)
    rw [takeWhere_nil, takeWhere_nil]
  | succ count ih =>
    cases more with
    | zero =>
      obtain rfl := List.length_eq_zero_iff.mp (Nat.le_zero.mp plenty)
      rw [takeWhere_nil, takeWhere_nil]
    | succ more =>
      cases next : flags.skip cs with
      | nil => rw [flags.takeWhere_of_nil next, flags.takeWhere_of_nil next]
      | cons c rest =>
        have shorter := flags.skip_length_le cs
        rw [next, List.length_cons] at shorter
        rw [flags.takeWhere_of_cons next, flags.takeWhere_of_cons next, @ih rest more (by omega) (by omega)]

/-- What is taken from the whole text and ends before it does is taken all the same. -/
theorem takeWhere_length_append {cs taken rest : List Char} (took : flags.takeWhere p cs cs.length = (taken, rest))
    (some_ : rest ≠ []) :
    flags.takeWhere p (cs ++ ending) (cs ++ ending).length = (taken, rest ++ ending) := by
  rw [flags.takeWhere_of_length_le (Nat.le_refl cs.length) (Nat.le_add_right _ ending.length),
    ← List.length_append] at took
  obtain ⟨rest', took', follows⟩ := flags.takeWhere_append took (.inl some_)
  rw [took', follows.eq_of_ne_nil some_]

/-- What a closing bracket does not belong to is not taken from behind a text of which nothing is. -/
theorem takeWhere_nil_append {cs : List Char} (none : (flags.takeWhere p cs cs.length).1 = [])
    (closes : p ')' = false) :
    (flags.takeWhere p (cs ++ ending) (cs ++ ending).length).1 = [] := by
  have length : (cs ++ ending).length = cs.length + 1 + 1 := by simp [ending]
  rw [length]
  cases next : flags.skip cs with
  | nil =>
    rcases flags.follows_skip cs with same | ⟨-, same⟩
    · rw [next] at same
      rw [flags.takeWhere_of_cons same, closes]
      rfl
    · rw [flags.takeWhere_of_nil same]
  | cons c rest =>
    have next' := flags.skip_append (next ▸ List.cons_ne_nil c rest)
    rw [next] at next'
    rw [flags.takeWhere_of_cons next']
    have positive := flags.skip_length_le cs
    rw [next, List.length_cons] at positive
    obtain ⟨count, same⟩ := Nat.exists_eq_add_of_lt (Nat.lt_of_lt_of_le (Nat.succ_pos _) positive)
    rw [show cs.length = count + 1 by omega, flags.takeWhere_of_cons next] at none
    split at none
    · cases none
    · rename_i other
      rw [if_neg other]

theorem braced?_append {cs body rest : List Char} (read : flags.braced? cs = some (body, rest)) :
    flags.braced? (cs ++ ending) = some (body, rest ++ ending) := by
  unfold braced? at read ⊢
  split at read
  · rename_i took
    cases read
    rw [flags.takeWhere_length_append took (List.cons_ne_nil _ _)]
    rfl
  · cases read

end Flags

namespace Atom
variable (flags : Flags)

/-- A number in as many digits as asked for, without braces. -/
def bareHex? (count : Nat) (cs : List Char) : Option (Atom × List Char) :=
  let (digits, rest) := flags.takeWhere (fun _ => true) cs count
  if digits.length < count then none
  else (ofDigits? digits (count = 2 && !flags.unicode)).map fun atom => (atom, rest)

theorem bareHex?_follows {count : Nat} {cs cs' rest : List Char} {a : Atom} (follows : Follows cs cs')
    (read : bareHex? flags count cs = some (a, rest)) :
    ∃ rest', bareHex? flags count cs' = some (a, rest') ∧ Follows rest rest' := by
  rcases follows with rfl | ⟨rfl, rfl⟩
  · have most := flags.length_takeWhere_le (p := fun _ => true) cs count
    unfold bareHex? at read ⊢
    cases took : flags.takeWhere (fun _ => true) cs count with
    | mk digits behind =>
      rw [took] at read most
      simp only [Option.ite_none_left_eq_some, Option.map_eq_some_iff, Prod.mk.injEq] at read
      obtain ⟨full, atom, numbered, rfl, rfl⟩ := read
      obtain ⟨rest', took', follows⟩ :=
        flags.takeWhere_append took (.inr (Nat.le_antisymm most (Nat.le_of_not_lt full)))
      refine ⟨rest', ?_, follows⟩
      rw [took']
      simp [full, numbered]
  · refine ⟨rest, read, ?_⟩
    unfold bareHex? at read
    rw [flags.takeWhere_nil] at read
    simp only [Option.ite_none_left_eq_some, Option.map_eq_some_iff, Prod.mk.injEq] at read
    obtain ⟨-, -, -, -, rfl⟩ := read
    exact .inr ⟨rfl, rfl⟩

theorem hex?_append {count : Nat} {cs rest : List Char} {a : Atom} (read : hex? flags count cs = some (a, rest)) :
    ∃ rest', hex? flags count (cs ++ ending) = some (a, rest') ∧ Follows rest rest' := by
  unfold hex? at read ⊢
  have follows := flags.follows_skip cs
  generalize flags.skip cs = ds at read follows
  generalize flags.skip (cs ++ ending) = ds' at follows ⊢
  split at read
  · rename_i inner
    obtain rfl := follows.eq_of_cons
    simp only [Option.bind_eq_bind, Option.bind_eq_some_iff, Prod.exists, Option.pure_def, Option.some.injEq,
      Prod.mk.injEq] at read
    obtain ⟨digits, behind, braced, atom, numbered, rfl, rfl⟩ := read
    refine ⟨behind ++ ending, ?_, .append _⟩
    simp [flags.braced?_append braced, numbered]
  · rename_i bare
    obtain ⟨rest', read', follows'⟩ := bareHex?_follows flags follows read
    refine ⟨rest', ?_, follows'⟩
    split
    · rename_i inner
      exfalso
      rcases follows with same | ⟨-, same⟩
      · cases ds with
        | nil => cases same
        | cons c more =>
          cases same
          exact bare more rfl
      · cases same
    · exact read'

theorem property?_append {negate : Bool} {cs rest : List Char} {a : Atom}
    (read : property? flags negate cs = some (a, rest)) :
    property? flags negate (cs ++ ending) = some (a, rest ++ ending) := by
  unfold property? at read ⊢
  cases next : flags.skip cs with
  | nil =>
    rw [next] at read
    cases read
  | cons c more =>
    have next' := flags.skip_append (next ▸ List.cons_ne_nil c more)
    rw [next, List.cons_append] at next'
    rw [next] at read
    rw [next']
    cases unicode : flags.unicode with
    | false =>
      simp only [unicode, Bool.not_false, if_true] at read
      split at read <;> simp at read
    | true =>
      simp only [unicode, Bool.not_true, Bool.false_eq_true, if_false] at read ⊢
      split at read
      · cases read
      · rename_i inner same
        cases same
        simp only [Option.bind_eq_bind, Option.bind_eq_some_iff, Prod.exists, Option.pure_def, Option.some.injEq,
          Prod.mk.injEq] at read
        obtain ⟨body, behind, braced, s, named, t, negated, rfl, rfl⟩ := read
        simp [flags.braced?_append braced, named, negated]
      · rename_i brace same
        cases same
        split at read
        · cases read
        · rename_i plain
          simp only [Option.bind_eq_bind, Option.bind_eq_some_iff, Option.pure_def, Option.some.injEq, Prod.mk.injEq]
            at read
          obtain ⟨_, ⟨rfl, rfl⟩, s, named, t, negated, rfl, rfl⟩ := read
          simp [plain, named, negated]

theorem wordPlace?_append {cs rest : List Char} {a : Atom} (read : wordPlace? flags cs = some (a, rest)) :
    wordPlace? flags (cs ++ ending) = some (a, rest ++ ending) := by
  unfold wordPlace? at read ⊢
  split at read
  · rename_i inner
    simp only [List.cons_append]
    cases took : flags.takeWhere isPlaceLetter inner inner.length with
    | mk name behind =>
      rw [took] at read
      split at read
      · rename_i same
        cases same
        cases read
        have none := flags.takeWhere_nil_append (congrArg Prod.fst took) (by decide)
        split
        · rfl
        · rename_i named same
          rw [same] at none
          exact absurd none named
        · rename_i named same
          exact (named _ (Prod.ext none rfl)).elim
      · rename_i named same
        cases same
        obtain ⟨k, found, same⟩ := Option.map_eq_some_iff.mp read
        cases same
        rw [flags.takeWhere_length_append took (List.cons_ne_nil _ _)]
        split
        · rename_i same
          cases same
          exact absurd rfl named
        · rename_i same
          cases same
          rw [found]
          rfl
        · rename_i bare
          exact absurd rfl (bare _ _)
      · cases read
  · rename_i bare
    cases read
    cases cs with
    | nil => rfl
    | cons c more =>
      split
      · rename_i same
        cases same
        exact absurd rfl (bare more)
      · rfl

theorem escaped?_append {cs rest : List Char} {a : Atom} (read : escaped? flags cs = some (a, rest)) :
    ∃ rest', escaped? flags (cs ++ ending) = some (a, rest') ∧ Follows rest rest' := by
  cases cs with
  | nil => cases read
  | cons c behind =>
    have plain : ∀ atom, some (atom, behind) = some (a, rest) →
        ∃ rest', some (atom, behind ++ ending) = some (a, rest') ∧ Follows rest rest' := by
      intro atom same
      cases same
      exact ⟨_, rfl, .append _⟩
    have negated : ∀ s : Option CharSet, s.map (fun s => (chars s, behind)) = some (a, rest) →
        ∃ rest', s.map (fun s => (chars s, behind ++ ending)) = some (a, rest') ∧ Follows rest rest' := by
      intro s same
      obtain ⟨s, rfl, same⟩ := Option.map_eq_some_iff.mp same
      cases same
      exact ⟨_, rfl, .append _⟩
    rw [List.cons_append]
    unfold escaped? at read ⊢
    simp only at read ⊢
    split at read
    case h_1 => exact hex?_append flags read
    case h_2 => exact hex?_append flags read
    case h_3 => exact hex?_append flags read
    case h_4 => exact ⟨_, property?_append flags read, .append _⟩
    case h_5 => exact ⟨_, property?_append flags read, .append _⟩
    case h_20 => exact ⟨_, wordPlace?_append flags read, .append _⟩
    all_goals first
      | exact plain _ read
      | exact negated _ read
      | skip
    split at read
    · rename_i mark
      rw [if_pos mark]
      exact plain _ read
    · cases read

end Atom

end HttpExchange.Regex
