import HttpExchange.Proofs.Text.Blank
import HttpExchange.Text.Basic

/-!
Decimal numbers are read back as they are written, and reading takes nothing but digits, with an optional
plus sign before them.
-/
namespace HttpExchange.Text

/-- The text writes the number: an optional plus sign, then one digit at least and nothing else. -/
def Denotes (s : String) (n : Nat) : Prop :=
  ∃ digits, (s.toList = digits ∨ s.toList = '+' :: digits) ∧ digits ≠ [] ∧ (∀ c ∈ digits, c.isDigit) ∧
    n = Nat.ofDigitChars 10 digits 0

theorem digits?_eq_some_iff {n value : Nat} {cs : List Char} :
    digits? n cs = some value ↔ (∀ c ∈ cs, c.isDigit) ∧ value = Nat.ofDigitChars 10 cs n := by
  induction cs generalizing n with
  | nil =>
    simp only [digits?, Option.some.injEq, List.not_mem_nil, false_imp_iff, implies_true, true_and,
      Nat.ofDigitChars_nil]
    exact eq_comm
  | cons c rest ih =>
    by_cases digit : c.isDigit
    · simp only [digits?, digit?, digit, if_true, ih, List.mem_cons, forall_eq_or_imp, true_and,
        Nat.ofDigitChars_cons]
      rfl
    · simp [digits?, digit?, digit]

theorem natural?_eq_some_iff {s : String} {n : Nat} : natural? s = some n ↔ Denotes s n := by
  unfold natural? Denotes
  split
  · rename_i empty
    simp only [empty, reduceCtorEq, false_iff, not_exists, not_and]
    rintro digits (rfl | same) nonempty
    · exact absurd rfl nonempty
    · cases same
  · rename_i plus
    simp only [plus, reduceCtorEq, false_iff, not_exists, not_and]
    rintro digits (rfl | same) nonempty all
    · exact absurd (all '+' (by simp)) (by decide)
    · cases same; exact absurd rfl nonempty
  · rename_i rest nonempty plus
    rw [digits?_eq_some_iff, plus]
    constructor
    · rintro ⟨all, value⟩
      exact ⟨rest, .inr rfl, fun empty => nonempty (by rw [empty]), all, value⟩
    · rintro ⟨digits, rfl | same, -, all, value⟩
      · exact absurd (all '+' (by simp)) (by decide)
      · cases same; exact ⟨all, value⟩
  · rename_i nonempty _ noPlus
    rw [digits?_eq_some_iff]
    constructor
    · rintro ⟨all, value⟩
      exact ⟨_, .inl rfl, nonempty, all, value⟩
    · rintro ⟨digits, rfl | same, -, all, value⟩
      · exact ⟨all, value⟩
      · exact absurd same (noPlus _)

/-- A bounded number is read where the text writes one below the bound, and nowhere else. -/
theorem naturalBelow?_eq_some_iff {bound n : Nat} {s : String} :
    naturalBelow? bound s = some n ↔ Denotes s n ∧ n < bound := by
  simp [naturalBelow?, Option.filter_eq_some_iff, natural?_eq_some_iff]

theorem naturalBelow?_eq_none_iff {bound : Nat} {s : String} :
    naturalBelow? bound s = none ↔ ∀ n, ¬ (Denotes s n ∧ n < bound) := by
  rw [Option.eq_none_iff_forall_ne_some]
  exact forall_congr' fun n => not_congr naturalBelow?_eq_some_iff

theorem toList_decimal (n : Nat) : (decimal n).toList = Nat.toDigits 10 n := by simp [decimal]

theorem isDigit_of_mem_decimal {n : Nat} {c : Char} (member : c ∈ (decimal n).toList) : c.isDigit :=
  Nat.isDigit_of_mem_toDigits (by decide) (by decide) (toList_decimal n ▸ member)

theorem blankless_decimal (n : Nat) : Blankless (decimal n) := by
  intro c member blank
  have digit := isDigit_of_mem_decimal member
  simp only [Char.isDigit, Bool.and_eq_true, decide_eq_true_eq, ge_iff_le, UInt32.le_iff_toNat_le] at digit
  simp only [isBlank, Bool.or_eq_true, Bool.and_eq_true, decide_eq_true_eq, beq_iff_eq, Char.toNat] at blank
  have low : '0'.val.toNat = 48 := rfl
  have high : '9'.val.toNat = 57 := rfl
  omega

/-- A written number denotes itself. -/
theorem denotes_decimal (n : Nat) : Denotes (decimal n) n :=
  ⟨_, .inl rfl, toList_decimal n ▸ Nat.toDigits_ne_nil, fun _ => isDigit_of_mem_decimal,
    by rw [toList_decimal, Nat.ofDigitChars_ten_toDigits]⟩

theorem natural?_decimal (n : Nat) : natural? (decimal n) = some n := natural?_eq_some_iff.mpr (denotes_decimal n)

/-- A text denotes one number at most. -/
theorem Denotes.unique {s : String} {m n : Nat} (one : Denotes s m) (other : Denotes s n) : m = n := by
  rw [← natural?_eq_some_iff] at one other
  exact Option.some.inj (one.symm.trans other)

end HttpExchange.Text
