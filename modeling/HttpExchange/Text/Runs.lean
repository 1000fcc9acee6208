import HttpExchange.Text.Basic

/-!
Sets of characters by their numbers, as ascending runs: membership, set algebra, and the short text
in which tables write them.
-/
namespace HttpExchange.Text

/-- A run of numbers, from its first to its last member. -/
abbrev Run := Nat × Nat

/-- A set of numbers. The runs ascend, and a number is missing between each and the next. -/
structure Runs where
  toList : List Run
  deriving Repr, DecidableEq

namespace Runs

def empty : Runs := ⟨[]⟩

def range (first last : Nat) : Runs := ⟨[(first, last)]⟩

def single (n : Nat) : Runs := range n n

/-- The largest number of a character. -/
def largest : Nat := 0x10FFFF

/-- All characters; surrogates are none. -/
def all : Runs := ⟨[(0, 0xD7FF), (0xE000, largest)]⟩

def isEmpty (s : Runs) : Bool := s.toList.isEmpty

def contains (s : Runs) (n : Nat) : Bool := s.toList.any fun run => run.1 ≤ n && n ≤ run.2

def size (s : Runs) : Nat := s.toList.foldl (fun n run => n + (run.2 + 1 - run.1)) 0

/-- Adds a run that starts no earlier than those before it, which stand the last one first. -/
def append (before : List Run) (run : Run) : List Run :=
  match before with
  | [] => [run]
  | last :: others => if run.1 ≤ last.2 + 1 then (last.1, max last.2 run.2) :: others else run :: last :: others

def ofList (runs : List Run) : Runs :=
  ⟨((runs.mergeSort fun a b => a.1 ≤ b.1).foldl append []).reverse⟩

def union (a b : Runs) : Runs := ofList (a.toList ++ b.toList)

def unions (sets : List Runs) : Runs := ofList (sets.flatMap toList)

/-- The members of both lists of runs. -/
def interLists : List Run → List Run → List Run
  | [], _ => []
  | _, [] => []
  | a :: as, b :: bs =>
    let rest := if a.2 ≤ b.2 then interLists as (b :: bs) else interLists (a :: as) bs
    if max a.1 b.1 ≤ min a.2 b.2 then (max a.1 b.1, min a.2 b.2) :: rest else rest
termination_by as bs => as.length + bs.length

def inter (a b : Runs) : Runs := ⟨interLists a.toList b.toList⟩

/-- The runs of numbers from `start` on that stand in none of the runs. -/
def gapsFrom (start : Nat) : List Run → List Run
  | [] => if start ≤ largest then [(start, largest)] else []
  | (first, last) :: rest =>
    if start < first then (start, first - 1) :: gapsFrom (last + 1) rest else gapsFrom (last + 1) rest

def diff (a b : Runs) : Runs := inter a ⟨gapsFrom 0 b.toList⟩

def symmetricDiff (a b : Runs) : Runs := union (diff a b) (diff b a)

/-- The characters that are not in the set. -/
def complement (s : Runs) : Runs := diff all s

/-! ## Written runs -/

/-- The runs that a word writes: a number in base 16, two of them around a hyphen, or those and after
a slash the step from each member to the next. -/
def ofWord (word : List Char) : List Run :=
  let (first, rest) := word.span (· != '-')
  let (last, step) := (rest.drop 1).span (· != '/')
  let first := (radix? 16 first).getD 0
  let last := (radix? 16 last).getD first
  match radix? 16 (step.drop 1) with
  | none => [(first, last)]
  | some step => (List.range ((last - first) / step + 1)).map fun i => (first + i * step, first + i * step)

/-- The set that words write in ascending order. -/
def ofText (text : String) : Runs :=
  ⟨((splitWhere isBlank text.toList).filter (· ≠ [])).flatMap ofWord⟩

end Runs

/-! ## Search in ascending tables -/

/-- The place after the last entry between two places whose key is at most `n`. -/
def placeAfter {α : Type} (key : α → Nat) (table : Array α) (n low high : Nat) : Nat :=
  if low < high then
    match table[(low + high) / 2]? with
    | some entry =>
      if key entry ≤ n then placeAfter key table n ((low + high) / 2 + 1) high
      else placeAfter key table n low ((low + high) / 2)
    | none => low
  else low
termination_by high - low
decreasing_by all_goals omega

/-- The last entry of an ascending table whose key is at most `n`. -/
def lastAtMost? {α : Type} (key : α → Nat) (table : Array α) (n : Nat) : Option α :=
  match placeAfter key table n 0 table.size with
  | 0 => none
  | place + 1 => table[place]?

/-- The number is in one of the runs of an ascending table. -/
def inTable (table : Array Run) (n : Nat) : Bool := (lastAtMost? Prod.fst table n).any (n ≤ ·.2)

end HttpExchange.Text
