import HttpExchange.Text.Runs

/-!
Maps from characters to texts, by numbers, as tables write them: runs whose members go to neighbours
each, and single members that go to any text.
-/
namespace HttpExchange.Text

/-- A run of a map: every `step`-th number from `first` to `last`. Where the target is one number, it is
that of the first member, and the others keep their distance. -/
structure MappedRun where
  first : Nat
  last : Nat
  step : Nat
  target : List Nat
  deriving Repr, DecidableEq

/-- A map, by its runs in ascending order. -/
abbrev Mapping := Array MappedRun

namespace MappedRun

/-- What a number of the run goes to. -/
def image? (run : MappedRun) (n : Nat) : Option (List Nat) :=
  if run.first ≤ n ∧ n ≤ run.last ∧ (n - run.first) % run.step = 0 then
    some (match run.target with
      | [t] => [t + (n - run.first)]
      | ts => ts)
  else none

/-- The members of the run. -/
def members (run : MappedRun) : List Nat :=
  (List.range ((run.last - run.first) / run.step + 1)).map fun i => run.first + i * run.step

/-- The run that a word writes: its members as in a set, and after `>` the numbers of the target, with
a full stop between any two. -/
def ofWord (word : List Char) : MappedRun :=
  let (members, target) := word.span (· != '>')
  let (ends, step) := members.span (· != '/')
  let (first, last) := ends.span (· != '-')
  let first := (radix? 16 first).getD 0
  ⟨first, (radix? 16 (last.drop 1)).getD first, (radix? 16 (step.drop 1)).getD 1,
    (splitWhere (· == '.') (target.drop 1)).map fun digits => (radix? 16 digits).getD 0⟩

end MappedRun

namespace Mapping

/-- The map that words write in ascending order. -/
def ofText (text : String) : Mapping :=
  (((splitWhere isBlank text.toList).filter (· ≠ [])).map MappedRun.ofWord).toArray

/-- What a number goes to, if the map says so. -/
def image? (m : Mapping) (n : Nat) : Option (List Nat) :=
  (lastAtMost? MappedRun.first m n).bind (·.image? n)

end Mapping
end HttpExchange.Text
