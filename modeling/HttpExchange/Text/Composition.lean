import HttpExchange.Text.CompositionTable

/-!
Canonical composition: a text with every character taken apart, its marks in order, and then put
together again as far as it goes, so that two spellings of one text become the same.
-/
namespace HttpExchange.Text

/-- The map of characters to the pairs that they stand for. -/
def composites : Mapping := .ofText compositeText

/-- The map of characters that fall apart for good. -/
def separated : Mapping := .ofText separatedText

/-- The runs of marks with their classes, in ascending order. -/
def orderRuns : Array (Nat × Nat × Nat) :=
  ((orderTable.flatMap fun entry => (Runs.ofText entry.2).toList.map fun run => (run.1, run.2, entry.1)).mergeSort
    fun a b => a.1 ≤ b.1).toArray

/-- The class of a mark; all other characters have class zero. -/
def markOrder (n : Nat) : Nat :=
  match lastAtMost? (fun run : Nat × Nat × Nat => run.1) orderRuns n with
  | some (_, last, k) => if n ≤ last then k else 0
  | none => 0

/-! ## Syllables of Korean -/

/-- The first syllable, the first letter at each of its three places, and how many syllables share the
first two letters or the first one. -/
def firstSyllable : Nat := 0xAC00
def firstLead : Nat := 0x1100
def firstVowel : Nat := 0x1161
def beforeTail : Nat := 0x11A7
def tails : Nat := 28
def vowels : Nat := 21
def leads : Nat := 19

/-- The letters of a syllable. -/
def letters? (n : Nat) : Option (List Nat) :=
  let i := n - firstSyllable
  if n < firstSyllable ∨ leads * vowels * tails ≤ i then none
  else
    let pair := [firstLead + i / (vowels * tails), firstVowel + i / tails % vowels]
    some (if i % tails = 0 then pair else pair ++ [beforeTail + i % tails])

/-- The syllable of a lead and a vowel, or of such a syllable and a tail. -/
def syllable? (a b : Nat) : Option Nat :=
  if firstLead ≤ a ∧ a < firstLead + leads ∧ firstVowel ≤ b ∧ b < firstVowel + vowels then
    some (firstSyllable + ((a - firstLead) * vowels + (b - firstVowel)) * tails)
  else if firstSyllable ≤ a ∧ a < firstSyllable + leads * vowels * tails ∧ (a - firstSyllable) % tails = 0 ∧
      beforeTail < b ∧ b < beforeTail + tails then some (a + (b - beforeTail))
  else none

/-! ## Taking apart -/

/-- What a character falls apart into, in at most `depth` steps. -/
def takenApart : Nat → Nat → List Nat
  | 0, n => [n]
  | depth + 1, n =>
    match letters? n with
    | some ns => ns
    | none => match composites.image? n with
      | some (a :: rest) => takenApart depth a ++ rest
      | _ => (separated.image? n).getD [n]

/-- Puts a mark behind all marks before it that do not come after it in order; `before` holds the last
one first. -/
def insertMark (mark : Nat × Nat) : List (Nat × Nat) → List (Nat × Nat)
  | [] => [mark]
  | last :: before =>
    if mark.2 ≠ 0 ∧ mark.2 < last.2 then last :: insertMark mark before else mark :: last :: before

/-- The characters of a text taken apart, each with its class, and the marks on one character in order. -/
def decomposed (ns : List Nat) : List (Nat × Nat) :=
  ((ns.flatMap (takenApart 8)).foldl (fun before n => insertMark (n, markOrder n) before) []).reverse

/-! ## Putting together -/

/-- The pairs that stand for one character, in ascending order. -/
def pairs : Array (Nat × Nat × Nat) :=
  ((composites.toList.filterMap fun run => match run.target with
    | [a, b] => some (a, b, run.first)
    | _ => none).mergeSort fun p q => p.1 < q.1 || (p.1 == q.1 && p.2.1 ≤ q.2.1)).toArray

/-- The character that stands for a pair, by its key in one number. -/
def pairOf? (a b : Nat) : Option Nat :=
  let key (first second : Nat) : Nat := first * 0x110000 + second
  match lastAtMost? (fun p : Nat × Nat × Nat => key p.1 p.2.1) pairs (key a b) with
  | some (first, second, n) => if first = a ∧ second = b then some n else none
  | none => none

/-- The character that stands for two. -/
def composed? (a b : Nat) : Option Nat := syllable? a b <|> pairOf? a b

/-- How far a text is put together: what is done, the last one first; the character that still may
take marks; and the marks behind it that it did not take, the last one first. -/
structure Composing where
  done : List Nat
  base : Option Nat
  marks : List (Nat × Nat)

namespace Composing

/-- What is read so far, the last one first. -/
def read (c : Composing) : List Nat := c.marks.map Prod.fst ++ c.base.toList ++ c.done

/-- Takes the next character: it joins the last base if no mark between them keeps it from that. -/
def take (c : Composing) (next : Nat × Nat) : Composing :=
  let joined : Option Nat := do
    let base ← c.base
    if c.marks.head?.any fun last => next.2 ≤ last.2 then none
    composed? base next.1
  match joined with
  | some n => { c with base := some n }
  | none =>
    if next.2 = 0 then ⟨c.read, some next.1, []⟩ else { c with marks := next :: c.marks }

end Composing

/-- The text taken apart and put together. -/
def composed (ns : List Nat) : List Nat :=
  ((decomposed ns).foldl Composing.take ⟨[], none, []⟩).read.reverse

end HttpExchange.Text
