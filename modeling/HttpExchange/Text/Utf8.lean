import HttpExchange.Bytes

/-!
UTF-8: the octets of a text, the strict reading of octets, and the forgiving one, which puts one
replacement character in place of each longest piece that begins no well-formed character.
-/
namespace HttpExchange.Utf8

/-- The octets of one character. -/
def encodeChar (c : Char) : Bytes :=
  let n := c.toNat
  if n < 0x80 then [.ofNat n]
  else if n < 0x800 then [.ofNat (0xC0 + n / 64), .ofNat (0x80 + n % 64)]
  else if n < 0x10000 then
    [.ofNat (0xE0 + n / 4096), .ofNat (0x80 + n / 64 % 64), .ofNat (0x80 + n % 64)]
  else
    [.ofNat (0xF0 + n / 262144), .ofNat (0x80 + n / 4096 % 64), .ofNat (0x80 + n / 64 % 64),
      .ofNat (0x80 + n % 64)]

/-- The octets of a text. -/
def encode (s : String) : Bytes := s.toList.flatMap encodeChar

/-- An octet that continues a character. -/
def isTail (b : UInt8) : Bool := 0x80 ≤ b.toNat && b.toNat ≤ 0xBF

/-- What a lead octet announces: how many octets follow it, the bits it gives, and the bounds of
the octet right after it, which keep out long forms, surrogates and numbers that are too large. -/
structure Lead where
  tails : Nat
  bits : Nat
  low : Nat
  high : Nat

/-- The announcement of a lead octet, `none` for an octet that leads no longer form. -/
def lead? (b : UInt8) : Option Lead :=
  let n := b.toNat
  if 0xC2 ≤ n ∧ n ≤ 0xDF then some ⟨1, n - 0xC0, 0x80, 0xBF⟩
  else if 0xE0 ≤ n ∧ n ≤ 0xEF then
    some ⟨2, n - 0xE0, if n = 0xE0 then 0xA0 else 0x80, if n = 0xED then 0x9F else 0xBF⟩
  else if 0xF0 ≤ n ∧ n ≤ 0xF4 then
    some ⟨3, n - 0xF0, if n = 0xF0 then 0x90 else 0x80, if n = 0xF4 then 0x8F else 0xBF⟩
  else none

/-- Reads `k` continuing octets onto the bits read so far: the number they give, `none` if one is
missing, and the octets left from the first that does not continue. -/
def tails : Nat → Nat → Bytes → Option Nat × Bytes
  | 0, bits, rest => (some bits, rest)
  | _ + 1, _, [] => (none, [])
  | k + 1, bits, b :: rest =>
    if isTail b then tails k (bits * 64 + (b.toNat - 0x80)) rest else (none, b :: rest)

theorem tails_length_le (k bits : Nat) (bytes : Bytes) : (tails k bits bytes).2.length ≤ bytes.length := by
  induction k generalizing bits bytes with
  | zero => simp [tails]
  | succ k ih =>
    cases bytes with
    | nil => simp [tails]
    | cons b rest =>
      unfold tails
      split
      · exact Nat.le_succ_of_le (ih ..)
      · simp

/-- Reads the character that starts with octet `b`: the character, `none` for a malformed piece,
and the octets after it. -/
def first (b : UInt8) (rest : Bytes) : Option Char × Bytes :=
  if b.toNat < 0x80 then (some (.ofNat b.toNat), rest)
  else match lead? b with
    | none => (none, rest)
    | some lead =>
      match rest with
      | [] => (none, [])
      | second :: more =>
        if lead.low ≤ second.toNat ∧ second.toNat ≤ lead.high then
          match tails (lead.tails - 1) (lead.bits * 64 + (second.toNat - 0x80)) more with
          | (some n, left) => (some (.ofNat n), left)
          | (none, left) => (none, left)
        else (none, second :: more)

theorem first_length_le (b : UInt8) (rest : Bytes) : (first b rest).2.length ≤ rest.length := by
  unfold first
  split
  · simp
  · split
    · simp
    · rename_i lead _
      cases rest with
      | nil => simp
      | cons second more =>
        have shorter := tails_length_le (lead.tails - 1) (lead.bits * 64 + (second.toNat - 0x80)) more
        simp only
        split
        · split <;> rename_i read <;> rw [read] at shorter <;> simp at shorter ⊢ <;> omega
        · simp

/-- The characters of an octet string, `none` in place of each malformed piece; `found` holds those
before it, the last one first. -/
def charsAfter (found : List (Option Char)) : Bytes → List (Option Char)
  | [] => found.reverse
  | b :: rest => charsAfter ((first b rest).1 :: found) (first b rest).2
termination_by bytes => bytes.length
decreasing_by exact Nat.lt_succ_of_le (first_length_le b rest)

/-- The characters of an octet string, `none` in place of each malformed piece. -/
def chars (bytes : Bytes) : List (Option Char) := charsAfter [] bytes

/-- The text of well-formed octets, `none` if a piece is malformed. -/
def decode? (bytes : Bytes) : Option String :=
  let cs := chars bytes
  if cs.all Option.isSome then some (.ofList (cs.filterMap id)) else none

/-- The text of octets with U+FFFD in place of each malformed piece. -/
def decodeLossy (bytes : Bytes) : String := .ofList ((chars bytes).map (·.getD '\uFFFD'))

end HttpExchange.Utf8
