import HttpExchange.Text.Basic

/-!
Labels of host names outside ASCII: their characters as insertions into the ASCII part, each written
as a number of variable length in base 36.
-/
namespace HttpExchange.Url.Punycode

/-- The damped and scaled bias after an insertion; `count` is the length so far. -/
def adapt (delta count : Nat) (isFirst : Bool) : Nat :=
  let rec go : Nat → Nat → Nat → Nat
    | 0, k, _ => k
    | fuel + 1, k, d => if 455 < d then go fuel (k + 36) (d / 35) else k + 36 * d / (d + 38)
  let scaled := if isFirst then delta / 700 else delta / 2
  go 64 0 (scaled + scaled / count)

/-- The least digit that ends a number at position `k`. -/
def threshold (k bias : Nat) : Nat := if k ≤ bias then 1 else min 26 (k - bias)

/-- The character of a digit in base 36, letters first. -/
def digitChar (d : Nat) : Char := if d < 26 then .ofNat (97 + d) else .ofNat (22 + d)

/-- The value of a digit in base 36, letters first. -/
def digitValue? (c : Char) : Option Nat :=
  (Text.radixDigit? c).map fun d => if d < 10 then d + 26 else d - 10

/-- The digits of a number at a bias, from position `k` on. -/
def digits (bias : Nat) : Nat → Nat → Nat → List Char
  | 0, _, _ => []
  | fuel + 1, k, n =>
    let t := threshold k bias
    if n < t then [digitChar n]
    else digitChar (t + (n - t) % (36 - t)) :: digits bias fuel (k + 36) ((n - t) / (36 - t))

/-- The state of writing: the steps since the last insertion, the bias, how many characters are
written, and the text so far. -/
structure Writing where
  delta : Nat
  bias : Nat
  count : Nat
  output : List Char

/-- Writes the insertions of all characters of one number, in the order of the text. -/
def writeNumber (asciiCount : Nat) (n : Nat) (input : List Char) (w : Writing) : Writing :=
  input.foldl (fun w c =>
    if c.toNat < n then { w with delta := w.delta + 1 }
    else if c.toNat = n then
      ⟨0, adapt w.delta (w.count + 1) (w.count = asciiCount), w.count + 1,
        w.output ++ digits w.bias 64 36 w.delta⟩
    else w) w

/-- Writes a label: its ASCII part, a hyphen if there is one, and the insertions in ascending order. -/
def encode (input : List Char) : List Char :=
  let ascii := input.filter (·.toNat < 128)
  let numbers := ((input.map Char.toNat).filter (128 ≤ ·)).mergeSort.eraseDups
  let start : Nat × Writing := (128, ⟨0, 72, ascii.length, ascii ++ if ascii.isEmpty then [] else ['-']⟩)
  (numbers.foldl (fun (last, w) n =>
    let w := { w with delta := w.delta + (n - last) * (w.count + 1) }
    let w := writeNumber ascii.length n input w
    (n + 1, { w with delta := w.delta + 1 })) start).2.output

/-- The largest number that a step may come to. -/
def largestStep : Nat := 0xFFFFFFFF

/-- Reads a number at a bias and adds it to `n`: the sum and the rest. -/
def number? (bias : Nat) : List Char → Nat → Nat → Nat → Option (Nat × List Char)
  | [], _, _, _ => none
  | c :: rest, k, weight, n => do
    let d ← digitValue? c
    let n := n + d * weight
    let t := threshold k bias
    if largestStep < n then none
    else if d < t then some (n, rest)
    else if largestStep < weight * (36 - t) then none
    else number? bias rest (k + 36) (weight * (36 - t)) n

/-- Reads the insertions into what is read so far, at most `fuel` of them. -/
def insertions? : Nat → List Char → Nat → Nat → Nat → List Char → Option (List Char)
  | _, [], _, _, _, found => some found
  | 0, _, _, _, _, _ => none
  | fuel + 1, cs, n, i, bias, found => do
    let (sum, rest) ← number? bias cs 36 1 i
    let length := found.length + 1
    let n := n + sum / length
    let place := sum % length
    let inserted := found.take place ++ .ofNat n :: found.drop place
    if 0x10FFFF < n ∨ (0xD800 ≤ n ∧ n < 0xE000) then none
    else insertions? fuel rest n (place + 1) (adapt (sum - i) length (i == 0)) inserted

/-- Reads a label: its ASCII part up to the last hyphen, which may not be empty if there is a hyphen, and
the insertions. -/
def decode? (cs : List Char) : Option (List Char) :=
  let reversed := cs.reverse
  let tail := (reversed.takeWhile (· != '-')).reverse
  match (reversed.dropWhile (· != '-')).reverse with
  | ['-'] => none
  | ascii => insertions? cs.length tail 128 0 72 ascii.dropLast

end HttpExchange.Url.Punycode
