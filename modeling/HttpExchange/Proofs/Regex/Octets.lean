import HttpExchange.Proofs.Regex.Meaning
import Mathlib.Data.List.Forall2
import Mathlib.Tactic.SplitIfs

/-!
Texts taken octet by octet. Whoever begins between two characters and takes the octets of one, or octets of the spans
that write the characters of a range, has taken one character of the range and stands behind it (`Reads.char`).
-/
namespace HttpExchange.Regex

/-- A point in a text: the characters behind it, and how many octets of the next one. -/
structure Point where
  place : Nat
  taken : Nat
  slots : Slots

namespace Point
variable (content : Array Char) (p : Point)

/-- The place, if the point is between two characters. -/
def place? : Option Nat := if p.taken = 0 then some p.place else none

/-- The octets of the character that the point is in or before. -/
def octets : List Nat := (content[p.place]?.map fun c => Octets.ofNumber c.toNat).getD []

/-- The octet behind the point. -/
def octet? : Option Nat := (p.octets content)[p.taken]?

/-- The point behind the next octet. -/
def onward : Point :=
  if p.taken + 1 < (p.octets content).length then { p with taken := p.taken + 1 }
  else ⟨p.place + 1, 0, p.slots⟩

end Point

/-- Octets lead from one point to another. -/
inductive Reads (content : Array Char) : Point → List Nat → Point → Prop
  | nil (p : Point) : Reads content p [] p
  | cons {p q : Point} {octet : Nat} {rest : List Nat} (next : p.octet? content = some octet)
      (onward : Reads content (p.onward content) rest q) : Reads content p (octet :: rest) q

variable {content : Array Char} {p q : Point}

theorem Reads.append {r : Point} {front back : List Nat} (first : Reads content p front q)
    (others : Reads content q back r) : Reads content p (front ++ back) r := by
  induction first with
  | nil p => exact others
  | cons next onward ih => exact .cons next (ih others)

theorem Reads.split {r : Point} {front back : List Nat} (reads : Reads content p (front ++ back) r) :
    ∃ q, Reads content p front q ∧ Reads content q back r := by
  induction front generalizing p with
  | nil => exact ⟨p, .nil p, reads⟩
  | cons octet rest ih =>
    cases reads with
    | cons next onward =>
      obtain ⟨q, first, others⟩ := ih onward
      exact ⟨q, .cons next first, others⟩

/-! ### Characters -/

namespace Octets

theorem ofNumber_ne_nil (n : Nat) : ofNumber n ≠ [] := by
  unfold ofNumber
  split_ifs <;> exact List.cons_ne_nil _ _

theorem ofNumber_injective {m n : Nat} (same : ofNumber m = ofNumber n) : m = n := by
  unfold ofNumber at same
  split_ifs at same <;> simp only [List.cons.injEq] at same <;> omega

/-- How many octets write a character, by the first of them. -/
def lengthBy (octet : Nat) : Nat :=
  if octet < 0x80 then 1 else if octet < 0xE0 then 2 else if octet < 0xF0 then 3 else 4

theorem length_ofNumber {n octet : Nat} {rest : List Nat} (written : ofNumber n = octet :: rest) :
    (ofNumber n).length = lengthBy octet := by
  unfold ofNumber at written ⊢
  unfold lengthBy
  split_ifs at written ⊢ <;> simp only [List.cons.injEq] at written <;>
    simp only [List.length_cons, List.length_nil] <;>
    omega

theorem lengthBy_between {first last octet : Nat} (same : lengthBy first = lengthBy last) (low : first ≤ octet)
    (high : octet ≤ last) : lengthBy octet = lengthBy first := by
  unfold lengthBy at same ⊢
  split_ifs at same ⊢ <;> omega

end Octets

/-- Octets of one character that are taken in turn are its next ones. -/
theorem Reads.inside {octets : List Nat} (reads : Reads content p octets q) (some_ : octets ≠ [])
    (fits : p.taken + octets.length ≤ (p.octets content).length) :
    octets <+: (p.octets content).drop p.taken ∧
      (p.taken + octets.length = (p.octets content).length → q = ⟨p.place + 1, 0, p.slots⟩) := by
  induction reads with
  | nil p => exact absurd rfl some_
  | @cons p q octet rest next onward ih =>
    have behind : (p.octets content).drop p.taken = octet :: (p.octets content).drop (p.taken + 1) := by
      obtain ⟨bound, there⟩ := List.getElem?_eq_some_iff.mp next
      rw [List.drop_eq_getElem_cons bound, there]
    rw [behind]
    by_cases last : rest = []
    · subst last
      cases onward
      refine ⟨List.prefix_iff_eq_append.mpr rfl, fun whole => ?_⟩
      rw [List.length_singleton] at whole
      rw [Point.onward, if_neg (by omega)]
    · have more := List.length_pos_iff.mpr last
      have further : p.onward content = { p with taken := p.taken + 1 } := by
        rw [List.length_cons] at fits
        rw [Point.onward, if_pos (by omega)]
      rw [further] at ih
      obtain ⟨front, whole⟩ := ih last (by rw [List.length_cons] at fits; exact Nat.le_trans (by simp; omega) fits)
      refine ⟨List.prefix_cons_inj octet |>.mpr front, fun all => whole ?_⟩
      rw [List.length_cons] at all
      exact Eq.trans (by simp; omega) all

/-- Octets that are as many as the first of them says are a character. -/
theorem Reads.char {octet : Nat} {rest : List Nat} (reads : Reads content p (octet :: rest) q) (between : p.taken = 0)
    (whole : (octet :: rest).length = Octets.lengthBy octet) :
    ∃ c, content[p.place]? = some c ∧ Octets.ofNumber c.toNat = octet :: rest ∧ q = ⟨p.place + 1, 0, p.slots⟩ := by
  have starts : (p.octets content)[0]? = some octet := by
    cases reads with
    | cons next onward => rwa [Point.octet?, between] at next
  obtain ⟨c, there⟩ : ∃ c, content[p.place]? = some c := by
    refine Option.isSome_iff_exists.mp (Option.isSome_iff_ne_none.mpr fun none => ?_)
    simp [Point.octets, none] at starts
  have octets : p.octets content = Octets.ofNumber c.toNat := by simp [Point.octets, there]
  rw [octets] at starts
  obtain ⟨others, written⟩ : ∃ others, Octets.ofNumber c.toNat = octet :: others := by
    cases numbers : Octets.ofNumber c.toNat with
    | nil => simp [numbers] at starts
    | cons first others => exact ⟨others, by simpa [numbers] using starts⟩
  have length := (Octets.length_ofNumber written).trans whole.symm
  have fits : p.taken + (octet :: rest).length = (p.octets content).length := by
    rw [between, octets, length, Nat.zero_add]
  obtain ⟨front, ends⟩ := reads.inside (List.cons_ne_nil _ _) (Nat.le_of_eq fits)
  rw [between, List.drop_zero, octets] at front
  exact ⟨c, there, (front.eq_of_length length.symm).symm, ends fits⟩

/-- The octets of characters that are taken in turn are these characters. -/
theorem Reads.chars {cs : List Char} {p q : Point}
    (reads : Reads content p (cs.flatMap fun c => Octets.ofNumber c.toNat) q)
    (between : p.taken = 0) :
    cs <+: content.toList.drop p.place ∧ q = ⟨p.place + cs.length, 0, p.slots⟩ := by
  induction cs generalizing p with
  | nil =>
    obtain ⟨place, taken, slots⟩ := p
    obtain rfl : taken = 0 := between
    cases reads
    exact ⟨List.nil_prefix, rfl⟩
  | cons c rest ih =>
    rw [List.flatMap_cons] at reads
    obtain ⟨r, first, others⟩ := reads.split
    obtain ⟨octet, more, written⟩ := List.exists_cons_of_ne_nil (Octets.ofNumber_ne_nil c.toNat)
    rw [written] at first
    obtain ⟨d, there, same, rfl⟩ := first.char between (by rw [← written, Octets.length_ofNumber written])
    obtain ⟨front, rfl⟩ := ih others rfl
    obtain rfl : c = d := Char.toNat_inj.mp (Octets.ofNumber_injective (written.trans same.symm))
    refine ⟨?_, by simp [Nat.add_comm, Nat.add_left_comm]⟩
    have there : content.toList[p.place]? = some c := by rwa [Array.getElem?_toList]
    obtain ⟨inside, stands⟩ := List.getElem?_eq_some_iff.mp there
    rw [List.drop_eq_getElem_cons inside, stands]
    exact List.prefix_cons_inj c |>.mpr front

namespace Octets

/-- Octets that lie in spans, each in its own. -/
abbrev Within (spans : List Span) (octets : List Nat) : Prop :=
  List.Forall₂ (fun span octet => span.1 ≤ octet ∧ octet ≤ span.2) spans octets

/-- A range of characters that are written in equally many octets, as spans of their octets. -/
def ofRange (first last : Nat) : List Span := (ofNumber first).zip (ofNumber last)

/-- A character whose octets lie in the spans of a range is in the range. -/
theorem between_of_within {first last n : Nat} (same : (ofNumber first).length = (ofNumber last).length)
    (within : Within (ofRange first last) (ofNumber n)) : first ≤ n ∧ n ≤ last := by
  have digits (m : Nat) :
      m = 0x40000 * (m / 0x40000) + 0x1000 * (m / 0x1000 % 0x40) + 0x40 * (m / 0x40 % 0x40) + m % 0x40 := by
    omega
  have lows := digits first
  have highs := digits last
  have all := digits n
  unfold ofRange ofNumber at *
  split_ifs at * <;> simp at same within <;> omega

/-- The octets of spans are as many as the first of them says. -/
theorem length_of_within {first last : Nat} (same : (ofNumber first).length = (ofNumber last).length)
    {octets : List Nat} (within : Within (ofRange first last) octets) :
    ∃ octet rest, octets = octet :: rest ∧ octets.length = lengthBy octet := by
  obtain ⟨low, lows, lowest⟩ := List.exists_cons_of_ne_nil (ofNumber_ne_nil first)
  obtain ⟨high, highs, highest⟩ := List.exists_cons_of_ne_nil (ofNumber_ne_nil last)
  have length := List.Forall₂.length_eq within
  rw [ofRange, List.length_zip, ← same, Nat.min_self] at length
  rw [ofRange, lowest, highest, List.zip_cons_cons] at within
  cases within with
  | @cons _ octet _ rest lies others =>
    refine ⟨octet, rest, rfl, ?_⟩
    rw [← length, length_ofNumber lowest]
    refine (lengthBy_between ?_ lies.1 lies.2).symm
    rw [← length_ofNumber lowest, ← length_ofNumber highest, same]

/-- A span that has a character lies in another. -/
structure Inside (outer inner : Span) : Prop where
  low : outer.1 ≤ inner.1
  proper : inner.1 ≤ inner.2
  high : inner.2 ≤ outer.2

theorem Inside.trans {outer middle inner : Span} (first : Inside outer middle) (second : Inside middle inner) :
    Inside outer inner := ⟨Nat.le_trans first.low second.low, second.proper, Nat.le_trans second.high first.high⟩

theorem inside_of_withoutSurrogates {s part : Span} (member : part ∈ withoutSurrogates s) : Inside s part := by
  simp only [withoutSurrogates, List.mem_filter, List.mem_cons, List.not_mem_nil, or_false, decide_eq_true_eq] at member
  obtain ⟨rfl | rfl, proper⟩ := member
  · exact ⟨Nat.le_refl _, proper, Nat.min_le_left _ _⟩
  · exact ⟨Nat.le_max_left _ _, proper, Nat.le_refl _⟩

/-- No character of a span lies up to a limit with another one after it. -/
def Apart (limit : Nat) (s : Span) : Prop := ¬ (s.1 ≤ limit ∧ limit < s.2)

theorem Apart.inside {limit : Nat} {outer inner : Span} (apart : Apart limit outer) (inside : Inside outer inner) :
    Apart limit inner := fun ⟨low, high⟩ =>
  apart ⟨Nat.le_trans inside.low low, Nat.lt_of_lt_of_le high inside.high⟩

theorem inside_of_cut {limit : Nat} {s part : Span} (proper : s.1 ≤ s.2) (member : part ∈ cut limit s) :
    Inside s part ∧ Apart limit part := by
  unfold cut at member
  split_ifs at member with between
  · simp only [List.mem_cons, List.not_mem_nil, or_false] at member
    rcases member with rfl | rfl
    · exact ⟨⟨Nat.le_refl _, between.1, Nat.le_of_lt between.2⟩, fun both => Nat.lt_irrefl _ both.2⟩
    · exact ⟨⟨Nat.le_succ_of_le between.1, between.2, Nat.le_refl _⟩, fun both => Nat.lt_irrefl _ both.1⟩
  · obtain rfl := List.mem_singleton.mp member
    exact ⟨⟨Nat.le_refl _, proper, Nat.le_refl _⟩, between⟩

/-- A number before those of another's block comes before the block. -/
theorem lt_block {size m n : Nat} (positive : 0 < size) (ordered : m ≤ n) (apart : m / size ≠ n / size) :
    m < n / size * size :=
  (Nat.div_lt_iff_lt_mul positive).mp (Nat.lt_of_le_of_ne (Nat.div_le_div_right ordered) apart)

/-- What is cut at the ends of blocks lies in the span. -/
theorem inside_of_align {size : Nat} (positive : 0 < size) {s part : Span} (proper : s.1 ≤ s.2)
    (member : part ∈ align size s) : Inside s part := by
  obtain ⟨first, last⟩ := s
  have whole : last / size * size ≤ last := Nat.div_mul_le_self last size
  -- Behind what may be cut off in front, up to the last block.
  have back : ∀ start, first ≤ start → start ≤ last →
      part ∈ (if start / size ≠ last / size ∧ last % size ≠ size - 1 then
        [(start, last / size * size - 1), (last / size * size, last)] else [(start, last)]) →
      Inside (first, last) part := by
    intro start low high here
    split_ifs at here with cut
    · have before := lt_block positive high cut.1
      simp only [List.mem_cons, List.not_mem_nil, or_false] at here
      rcases here with rfl | rfl
      · exact ⟨low, Nat.le_sub_one_of_lt before, Nat.le_trans (Nat.sub_le _ _) whole⟩
      · exact ⟨Nat.le_trans low (Nat.le_of_lt before), whole, Nat.le_refl _⟩
    · obtain rfl := List.mem_singleton.mp here
      exact ⟨low, high, Nat.le_refl _⟩
  by_cases cut : first / size ≠ last / size ∧ first % size ≠ 0
  · have next : first < (first / size + 1) * size := (Nat.div_lt_iff_lt_mul positive).mp (Nat.lt_succ_self _)
    have blocks : (first / size + 1) * size ≤ last / size * size :=
      Nat.mul_le_mul_right size (Nat.lt_of_le_of_ne (Nat.div_le_div_right proper) cut.1)
    have front : Inside (first, last) (first, (first / size + 1) * size - 1) :=
      ⟨Nat.le_refl _, Nat.le_sub_one_of_lt next, by simp only; omega⟩
    have behind := back _ (Nat.le_of_lt next) (Nat.le_trans blocks whole)
    simp only [align, if_pos cut] at member
    split_ifs at member behind with again
    · rcases List.mem_cons.mp member with rfl | here
      · exact front
      · exact behind here
    · rcases List.mem_cons.mp member with rfl | here
      · exact front
      · exact behind here
  · simp only [align, if_neg cut, List.nil_append] at member
    exact back first (Nat.le_refl _) proper member

theorem inside_of_alignAll {s part : Span} (proper : s.1 ≤ s.2) (member : part ∈ alignAll s) : Inside s part := by
  unfold alignAll at member
  split_ifs at member
  · obtain rfl := List.mem_singleton.mp member
    exact ⟨Nat.le_refl _, proper, Nat.le_refl _⟩
  · simp only [List.mem_flatMap] at member
    obtain ⟨outer, ⟨middle, first, second⟩, third⟩ := member
    have inMiddle := inside_of_align (by decide) proper first
    have inOuter := inside_of_align (by decide) inMiddle.proper second
    exact (inMiddle.trans inOuter).trans (inside_of_align (by decide) inOuter.proper third)

/-- The sequences of a span write parts of it, each with characters of one length. -/
theorem ofRange_of_sequences {s : Span} {spans : List Span} (member : spans ∈ sequences s) :
    ∃ first last, s.1 ≤ first ∧ last ≤ s.2 ∧ (ofNumber first).length = (ofNumber last).length ∧
      spans = ofRange first last := by
  simp only [sequences, List.mem_map, List.mem_flatMap] at member
  obtain ⟨part, ⟨long, ⟨middle, ⟨short, ⟨plain, whole, one⟩, two⟩, three⟩, aligned⟩, rfl⟩ := member
  have inPlain := inside_of_withoutSurrogates whole
  obtain ⟨inShort, apartOne⟩ := inside_of_cut inPlain.proper one
  obtain ⟨inMiddle, apartTwo⟩ := inside_of_cut inShort.proper two
  obtain ⟨inLong, apartThree⟩ := inside_of_cut inMiddle.proper three
  have inPart := inside_of_alignAll inLong.proper aligned
  have inside := (((inPlain.trans inShort).trans inMiddle).trans inLong).trans inPart
  refine ⟨part.1, part.2, inside.low, inside.high, ?_, rfl⟩
  have one := apartOne.inside ((inMiddle.trans inLong).trans inPart)
  have two := apartTwo.inside (inLong.trans inPart)
  have three := apartThree.inside inPart
  have proper := inside.proper
  unfold Apart at one two three
  unfold ofNumber
  split_ifs <;> simp <;> omega

end Octets

/-- Octets of the spans of a range are a character of the range. -/
theorem Reads.between {octets : List Nat} (reads : Reads content p octets q) (between : p.taken = 0) {s : Octets.Span}
    {spans : List Octets.Span} (member : spans ∈ Octets.sequences s) (within : Octets.Within spans octets) :
    ∃ c, content[p.place]? = some c ∧ s.1 ≤ c.toNat ∧ c.toNat ≤ s.2 ∧ q = ⟨p.place + 1, 0, p.slots⟩ := by
  obtain ⟨first, last, low, high, same, rfl⟩ := Octets.ofRange_of_sequences member
  obtain ⟨octet, rest, rfl, length⟩ := Octets.length_of_within same within
  obtain ⟨c, there, written, behind⟩ := reads.char between length
  rw [← written] at within
  obtain ⟨least, most⟩ := Octets.between_of_within same within
  exact ⟨c, there, Nat.le_trans low least, Nat.le_trans most high, behind⟩

end HttpExchange.Regex
