/-!
Texts character by character: white space and what it separates, letter case among the ASCII letters, and the
numbers that digits write.
-/
namespace HttpExchange.Text

/-! ### White space -/

/-- The characters with the Unicode property `White_Space`. -/
def isBlank (c : Char) : Bool :=
  let n := c.toNat
  (9 ≤ n && n ≤ 13) || n == 32 || n == 0x85 || n == 0xA0 || n == 0x1680 ||
    (0x2000 ≤ n && n ≤ 0x200A) || n == 0x2028 || n == 0x2029 || n == 0x202F || n == 0x205F || n == 0x3000

/-- The text without the characters of class `p` at both ends. -/
def trimWhere (p : Char → Bool) (cs : List Char) : List Char :=
  ((cs.dropWhile p).reverse.dropWhile p).reverse

/-- The text without white space at both ends. -/
def trim (s : String) : String := .ofList (trimWhere isBlank s.toList)

/-- The parts between the members of class `p`, empty ones included; never the empty list. -/
def splitWhere {α : Type} (p : α → Bool) (xs : List α) : List (List α) :=
  xs.foldr (fun x parts =>
    if p x then [] :: parts
    else match parts with
      | [] => [[x]]
      | part :: others => (x :: part) :: others) [[]]

/-- The parts of a text between the occurrences of one character. -/
def splitAt (c : Char) (s : String) : List String := (splitWhere (· == c) s.toList).map .ofList

/-- The runs of characters that are not white space. -/
def words (s : String) : List String :=
  ((splitWhere isBlank s.toList).filter (· ≠ [])).map .ofList

/-- The text before and after the first occurrence of a character. -/
def cut? (c : Char) (s : String) : Option (String × String) :=
  match s.toList.span (· != c) with
  | (_, []) => none
  | (before, _ :: after) => some (.ofList before, .ofList after)

/-! ### Letter case

Every character that is no ASCII letter is equal to itself only. -/

/-- The text with its ASCII capitals made small. -/
def asciiLower (s : String) : String := .ofList (s.toList.map Char.toLower)

/-- Two texts that differ at most in the case of ASCII letters. -/
def sameIgnoringCase (a b : String) : Bool := asciiLower a == asciiLower b

@[simp] theorem sameIgnoringCase_self (a : String) : sameIgnoringCase a a = true := by
  simp [sameIgnoringCase]

theorem sameIgnoringCase_comm (a b : String) : sameIgnoringCase a b = sameIgnoringCase b a := by
  rw [Bool.eq_iff_iff]
  simp only [sameIgnoringCase, beq_iff_eq]
  exact eq_comm

theorem sameIgnoringCase_trans {a b c : String} (h : sameIgnoringCase a b = true) :
    sameIgnoringCase a c = sameIgnoringCase b c := by
  simp only [sameIgnoringCase, beq_iff_eq] at *
  rw [h]

/-! ### Decimal numbers

A number that is read may have a plus sign in front and leading zeros. -/

/-- The decimal digits of a number. -/
def decimal (n : Nat) : String := .ofList (Nat.toDigits 10 n)

def digit? (c : Char) : Option Nat := if c.isDigit then some (c.toNat - 48) else none

/-- The number that digits write after the value `n`, `none` at a character that is no digit. -/
def digits? (n : Nat) : List Char → Option Nat
  | [] => some n
  | c :: rest => match digit? c with
    | some d => digits? (10 * n + d) rest
    | none => none

/-- Reads an optional plus and at least one digit. -/
def natural? (s : String) : Option Nat :=
  match s.toList with
  | [] => none
  | '+' :: [] => none
  | '+' :: rest => digits? 0 rest
  | cs => digits? 0 cs

def naturalBelow? (bound : Nat) (s : String) : Option Nat := (natural? s).filter (· < bound)

/-! ### Numbers in other bases

The base is 36 at most; digits and letters of either case are its digits. -/

/-- The value of a digit or letter. -/
def radixDigit? (c : Char) : Option Nat :=
  if c.isDigit then some (c.toNat - 48)
  else if c.isLower then some (c.toNat - 87)
  else if c.isUpper then some (c.toNat - 55)
  else none

/-- The number that digits of a base write, `none` if there is none or one is not of the base. -/
def radix? (base : Nat) (cs : List Char) : Option Nat :=
  if cs.isEmpty then none
  else cs.foldl (fun n c => do
    let n ← n
    let d ← radixDigit? c
    if d < base then some (base * n + d) else none) (some 0)

end HttpExchange.Text
