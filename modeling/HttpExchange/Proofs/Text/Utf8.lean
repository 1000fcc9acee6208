import HttpExchange.Text.Utf8
import HttpExchange.Proofs.LineEnd
import HttpExchange.Proofs.Text.Blank

/-!
UTF-8 is read back as it was written: the strict reading accepts exactly the octets of a text and gives
that text, the forgiving one agrees with it there, and line ends in octets are line ends in the text.
-/
namespace HttpExchange.Utf8
open Bytes (crlf Unbroken)

theorem toNat_ofNat_of_lt {n : Nat} (small : n < 256) : (UInt8.ofNat n).toNat = n := by
  simp [UInt8.toNat_ofNat', Nat.mod_eq_of_lt small]

theorem toNat_valid (c : Char) : c.toNat < 0xD800 ∨ 0xDFFF < c.toNat ∧ c.toNat < 0x110000 := c.valid

/-! ### One character -/

theorem isTail_ofNat {n : Nat} (small : n < 64) : isTail (.ofNat (0x80 + n)) = true := by
  simp only [isTail, toNat_ofNat_of_lt (show 0x80 + n < 256 by omega)]
  simp; omega

/-- A continuing octet adds its six bits. -/
theorem tails_succ (k bits : Nat) {n : Nat} (small : n < 64) (rest : Bytes) :
    tails (k + 1) bits (.ofNat (0x80 + n) :: rest) = tails k (bits * 64 + n) rest := by
  rw [tails, if_pos (isTail_ofNat small), toNat_ofNat_of_lt (by omega), Nat.add_sub_cancel_left]

theorem lead?_two {n : Nat} (low : 0x80 ≤ n) (high : n < 0x800) :
    lead? (.ofNat (0xC0 + n / 64)) = some ⟨1, n / 64, 0x80, 0xBF⟩ := by
  simp only [lead?, toNat_ofNat_of_lt (show 0xC0 + n / 64 < 256 by omega)]
  rw [if_pos (by omega), Nat.add_sub_cancel_left]

theorem lead?_three {n : Nat} (high : n < 0x10000) :
    lead? (.ofNat (0xE0 + n / 4096)) = some ⟨2, n / 4096, if n / 4096 = 0 then 0xA0 else 0x80,
      if n / 4096 = 13 then 0x9F else 0xBF⟩ := by
  simp only [lead?, toNat_ofNat_of_lt (show 0xE0 + n / 4096 < 256 by omega)]
  rw [if_neg (by omega), if_pos (by omega), Nat.add_sub_cancel_left]
  congr 3 <;> exact propext (by omega)

theorem lead?_four {n : Nat} (high : n < 0x110000) :
    lead? (.ofNat (0xF0 + n / 262144)) = some ⟨3, n / 262144, if n / 262144 = 0 then 0x90 else 0x80,
      if n / 262144 = 4 then 0x8F else 0xBF⟩ := by
  simp only [lead?, toNat_ofNat_of_lt (show 0xF0 + n / 262144 < 256 by omega)]
  rw [if_neg (by omega), if_neg (by omega), if_pos (by omega), Nat.add_sub_cancel_left]
  congr 3 <;> exact propext (by omega)

/-- A lead octet and a second one within its bounds are read on as a character. -/
theorem first_of_lead {b : UInt8} {lead : Lead} (long : 0x80 ≤ b.toNat) (leads : lead? b = some lead) {n : Nat}
    (small : n < 64) (low : lead.low ≤ 0x80 + n) (high : 0x80 + n ≤ lead.high) {rest left : Bytes} {value : Nat}
    (reads : tails (lead.tails - 1) (lead.bits * 64 + n) rest = (some value, left)) :
    first b (.ofNat (0x80 + n) :: rest) = (some (.ofNat value), left) := by
  rw [first, if_neg (by omega), leads]
  simp only [toNat_ofNat_of_lt (show 0x80 + n < 256 by omega), low, high, and_self, if_true,
    Nat.add_sub_cancel_left, reads]

/-- The octets of a character are read as that character, whatever follows. -/
theorem exists_first_encodeChar (c : Char) (rest : Bytes) :
    ∃ b left, encodeChar c ++ rest = b :: left ∧ first b left = (some c, rest) := by
  have valid := toNat_valid c
  have same : (Char.ofNat c.toNat) = c := Char.ofNat_toNat c
  unfold encodeChar
  by_cases one : c.toNat < 0x80
  · have value := toNat_ofNat_of_lt (show c.toNat < 256 by omega)
    simp only [one, if_true, List.cons_append, List.nil_append]
    refine ⟨_, _, rfl, ?_⟩
    rw [first, value, if_pos one, same]
  by_cases two : c.toNat < 0x800
  · have value := toNat_ofNat_of_lt (show 0xC0 + c.toNat / 64 < 256 by omega)
    simp only [one, two, if_true, if_false, List.cons_append, List.nil_append]
    have reads : tails 0 (c.toNat / 64 * 64 + c.toNat % 64) rest = (some c.toNat, rest) := by
      rw [tails, Nat.div_add_mod']
    have read := first_of_lead (by omega) (lead?_two (by omega) two) (by omega) (by simp) (by simp only; omega) reads
    exact ⟨_, _, rfl, by rw [read, same]⟩
  by_cases three : c.toNat < 0x10000
  · have value := toNat_ofNat_of_lt (show 0xE0 + c.toNat / 4096 < 256 by omega)
    simp only [one, two, three, if_true, if_false, List.cons_append, List.nil_append]
    have reads : tails 1 (c.toNat / 4096 * 64 + c.toNat / 64 % 64) (.ofNat (0x80 + c.toNat % 64) :: rest) =
        (some c.toNat, rest) := by
      rw [tails_succ 0 _ (by omega), tails]
      congr 2
      omega
    have read := first_of_lead (by omega) (lead?_three three) (by omega) (by simp only; split_ifs <;> omega)
      (by simp only; split_ifs <;> omega) reads
    exact ⟨_, _, rfl, by rw [read, same]⟩
  · have value := toNat_ofNat_of_lt (show 0xF0 + c.toNat / 262144 < 256 by omega)
    simp only [one, two, three, if_false, List.cons_append, List.nil_append]
    have reads : tails 2 (c.toNat / 262144 * 64 + c.toNat / 4096 % 64)
        (.ofNat (0x80 + c.toNat / 64 % 64) :: .ofNat (0x80 + c.toNat % 64) :: rest) = (some c.toNat, rest) := by
      rw [tails_succ 1 _ (by omega), tails_succ 0 _ (by omega), tails]
      congr 2
      omega
    have read := first_of_lead (by omega) (lead?_four (by omega)) (by omega) (by simp only; split_ifs <;> omega)
      (by simp only; split_ifs <;> omega) reads
    exact ⟨_, _, rfl, by rw [read, same]⟩

theorem tails_eq_some_iff {k bits value : Nat} {bytes left : Bytes} :
    tails (k + 1) bits bytes = (some value, left) ↔
      ∃ t rest, bytes = t :: rest ∧ isTail t = true ∧
        tails k (bits * 64 + (t.toNat - 0x80)) rest = (some value, left) := by
  cases bytes with
  | nil => simp [tails]
  | cons t rest =>
    by_cases tail : isTail t
    · simp [tails, tail]
    · simp [tails, tail]

theorem isTail_iff {b : UInt8} : isTail b = true ↔ 0x80 ≤ b.toNat ∧ b.toNat ≤ 0xBF := by
  simp [isTail]

/-- The octets of a number that is a character, given as its octets. -/
theorem encodeChar_ofNat {n : Nat} (valid : n.isValidChar) :
    encodeChar (.ofNat n) =
      if n < 0x80 then [.ofNat n]
      else if n < 0x800 then [.ofNat (0xC0 + n / 64), .ofNat (0x80 + n % 64)]
      else if n < 0x10000 then [.ofNat (0xE0 + n / 4096), .ofNat (0x80 + n / 64 % 64), .ofNat (0x80 + n % 64)]
      else [.ofNat (0xF0 + n / 262144), .ofNat (0x80 + n / 4096 % 64), .ofNat (0x80 + n / 64 % 64),
        .ofNat (0x80 + n % 64)] := by
  rw [encodeChar, Char.toNat_ofNat, if_pos valid]

theorem ofNat_of_toNat_eq {b : UInt8} {n : Nat} (same : b.toNat = n) : UInt8.ofNat n = b := by
  rw [← same, UInt8.ofNat_toNat]

theorem encodeChar_two {b second : UInt8} (lead : 0xC2 ≤ b.toNat ∧ b.toNat ≤ 0xDF)
    (inside : 0x80 ≤ second.toNat ∧ second.toNat ≤ 0xBF) :
    encodeChar (.ofNat ((b.toNat - 0xC0) * 64 + (second.toNat - 0x80))) = [b, second] := by
  rw [encodeChar_ofNat (.inl (by omega)), if_neg (by omega), if_pos (by omega),
    ofNat_of_toNat_eq (b := b) (by omega), ofNat_of_toNat_eq (b := second) (by omega)]

theorem encodeChar_three {b second third : UInt8} (lead : 0xE0 ≤ b.toNat ∧ b.toNat ≤ 0xEF)
    (inside : 0x80 ≤ second.toNat ∧ second.toNat ≤ 0xBF) (large : b.toNat = 0xE0 → 0xA0 ≤ second.toNat)
    (surrogate : b.toNat = 0xED → second.toNat ≤ 0x9F) (last : 0x80 ≤ third.toNat ∧ third.toNat ≤ 0xBF) :
    encodeChar (.ofNat (((b.toNat - 0xE0) * 64 + (second.toNat - 0x80)) * 64 + (third.toNat - 0x80))) =
      [b, second, third] := by
  rw [encodeChar_ofNat (by unfold Nat.isValidChar; omega), if_neg (by omega), if_neg (by omega), if_pos (by omega),
    ofNat_of_toNat_eq (b := b) (by omega), ofNat_of_toNat_eq (b := second) (by omega),
    ofNat_of_toNat_eq (b := third) (by omega)]

theorem encodeChar_four {b second third fourth : UInt8} (lead : 0xF0 ≤ b.toNat ∧ b.toNat ≤ 0xF4)
    (inside : 0x80 ≤ second.toNat ∧ second.toNat ≤ 0xBF) (large : b.toNat = 0xF0 → 0x90 ≤ second.toNat)
    (small : b.toNat = 0xF4 → second.toNat ≤ 0x8F) (more : 0x80 ≤ third.toNat ∧ third.toNat ≤ 0xBF)
    (last : 0x80 ≤ fourth.toNat ∧ fourth.toNat ≤ 0xBF) :
    encodeChar (.ofNat ((((b.toNat - 0xF0) * 64 + (second.toNat - 0x80)) * 64 + (third.toNat - 0x80)) * 64 +
      (fourth.toNat - 0x80))) = [b, second, third, fourth] := by
  rw [encodeChar_ofNat (.inr (by omega)), if_neg (by omega), if_neg (by omega), if_neg (by omega),
    ofNat_of_toNat_eq (b := b) (by omega), ofNat_of_toNat_eq (b := second) (by omega),
    ofNat_of_toNat_eq (b := third) (by omega), ofNat_of_toNat_eq (b := fourth) (by omega)]

/-- The three kinds of lead octets. -/
theorem lead?_cases {b : UInt8} {lead : Lead} (leads : lead? b = some lead) :
    (0xC2 ≤ b.toNat ∧ b.toNat ≤ 0xDF) ∧ lead = ⟨1, b.toNat - 0xC0, 0x80, 0xBF⟩ ∨
      (0xE0 ≤ b.toNat ∧ b.toNat ≤ 0xEF) ∧ lead = ⟨2, b.toNat - 0xE0, if b.toNat = 0xE0 then 0xA0 else 0x80,
        if b.toNat = 0xED then 0x9F else 0xBF⟩ ∨
      (0xF0 ≤ b.toNat ∧ b.toNat ≤ 0xF4) ∧ lead = ⟨3, b.toNat - 0xF0, if b.toNat = 0xF0 then 0x90 else 0x80,
        if b.toNat = 0xF4 then 0x8F else 0xBF⟩ := by
  simp only [lead?] at leads
  by_cases two : 0xC2 ≤ b.toNat ∧ b.toNat ≤ 0xDF
  · rw [if_pos two] at leads
    exact .inl ⟨two, (Option.some.inj leads).symm⟩
  by_cases three : 0xE0 ≤ b.toNat ∧ b.toNat ≤ 0xEF
  · rw [if_neg two, if_pos three] at leads
    exact .inr (.inl ⟨three, (Option.some.inj leads).symm⟩)
  by_cases four : 0xF0 ≤ b.toNat ∧ b.toNat ≤ 0xF4
  · rw [if_neg two, if_neg three, if_pos four] at leads
    exact .inr (.inr ⟨four, (Option.some.inj leads).symm⟩)
  · simp [two, three, four] at leads

/-- A character in a longer form comes from a lead octet, a second one within its bounds and further ones. -/
theorem first_eq_some {b : UInt8} {rest left : Bytes} {c : Char} (long : ¬ b.toNat < 0x80)
    (read : first b rest = (some c, left)) :
    ∃ lead second more value, lead? b = some lead ∧ rest = second :: more ∧
      (lead.low ≤ second.toNat ∧ second.toNat ≤ lead.high) ∧ c = .ofNat value ∧
      tails (lead.tails - 1) (lead.bits * 64 + (second.toNat - 0x80)) more = (some value, left) := by
  rw [first, if_neg long] at read
  cases leads : lead? b with
  | none => simp [leads] at read
  | some lead =>
    cases rest with
    | nil => simp [leads] at read
    | cons second more =>
      simp only [leads] at read
      split at read
      · rename_i inside
        split at read
        · rename_i value after reads
          cases read
          exact ⟨lead, second, more, value, rfl, rfl, inside, rfl, reads⟩
        · simp at read
      · simp at read

/-- A character that was read has exactly the octets that were read. -/
theorem encodeChar_of_first {b : UInt8} {rest left : Bytes} {c : Char} (read : first b rest = (some c, left)) :
    encodeChar c ++ left = b :: rest := by
  have bound := b.toNat_lt
  by_cases one : b.toNat < 0x80
  · rw [first, if_pos one] at read
    cases read
    rw [encodeChar_ofNat (.inl (by omega)), if_pos one, UInt8.ofNat_toNat]
    rfl
  obtain ⟨lead, second, more, value, leads, rfl, inside, rfl, reads⟩ := first_eq_some one read
  rcases lead?_cases leads with ⟨two, rfl⟩ | ⟨three, rfl⟩ | ⟨four, rfl⟩
  · simp only [Nat.sub_self, tails, Prod.mk.injEq, Option.some.injEq] at reads
    obtain ⟨rfl, rfl⟩ := reads
    rw [encodeChar_two two inside]
    rfl
  · obtain ⟨third, after, rfl, isThird, reads⟩ := tails_eq_some_iff.mp reads
    simp only [tails, Prod.mk.injEq, Option.some.injEq] at reads
    obtain ⟨rfl, rfl⟩ := reads
    rw [isTail_iff] at isThird
    simp only at inside
    rw [encodeChar_three three (by split_ifs at inside <;> omega) (by split_ifs at inside <;> omega)
      (by split_ifs at inside <;> omega) isThird]
    rfl
  · obtain ⟨third, after, rfl, isThird, reads⟩ := tails_eq_some_iff.mp reads
    obtain ⟨fourth, after, rfl, isFourth, reads⟩ := tails_eq_some_iff.mp reads
    simp only [tails, Prod.mk.injEq, Option.some.injEq] at reads
    obtain ⟨rfl, rfl⟩ := reads
    rw [isTail_iff] at isThird isFourth
    simp only at inside
    rw [encodeChar_four four (by split_ifs at inside <;> omega) (by split_ifs at inside <;> omega)
      (by split_ifs at inside <;> omega) isThird isFourth]
    rfl

/-! ### Texts -/

private theorem charsAfter_eq (found : List (Option Char)) (bytes : Bytes) :
    charsAfter found bytes = found.reverse ++ chars bytes := by
  induction size : bytes.length using Nat.strongRecOn generalizing bytes found with
  | ind n ih =>
    cases bytes with
    | nil => simp [chars, charsAfter]
    | cons b rest =>
      have shorter := first_length_le b rest
      have onward := fun found => ih _ (by rw [← size, List.length_cons]; omega) found (first b rest).2 rfl
      rw [chars, charsAfter, charsAfter, onward, onward]
      simp

theorem chars_nil : chars [] = [] := by simp [chars, charsAfter]

/-- The characters of octets are the first one and those of the octets after it. -/
theorem chars_cons (b : UInt8) (rest : Bytes) :
    chars (b :: rest) = (first b rest).1 :: chars (first b rest).2 := by
  conv => lhs; rw [chars, charsAfter, charsAfter_eq]
  simp

theorem chars_encodeChar_append (c : Char) (rest : Bytes) : chars (encodeChar c ++ rest) = some c :: chars rest := by
  obtain ⟨b, left, octets, read⟩ := exists_first_encodeChar c rest
  rw [octets, chars_cons, read]

theorem chars_encode (s : String) : chars (encode s) = s.toList.map some := by
  unfold encode
  induction s.toList with
  | nil => exact chars_nil
  | cons c rest ih => rw [List.flatMap_cons, chars_encodeChar_append, ih, List.map_cons]

/-- Octets of which every piece is well formed are those of the characters read. -/
theorem flatMap_encodeChar_of_chars {bytes : Bytes} {cs : List Char} (read : chars bytes = cs.map some) :
    cs.flatMap encodeChar = bytes := by
  induction cs generalizing bytes with
  | nil =>
    cases bytes with
    | nil => rfl
    | cons b rest => simp [chars_cons] at read
  | cons c cs ih =>
    cases bytes with
    | nil => simp [chars_nil] at read
    | cons b rest =>
      rw [chars_cons, List.map_cons, List.cons.injEq] at read
      rw [List.flatMap_cons, ih read.2]
      exact encodeChar_of_first (Prod.ext read.1 rfl)

/-- The strict reading accepts exactly the octets of a text. -/
theorem decode?_eq_some_iff {bytes : Bytes} {s : String} : decode? bytes = some s ↔ bytes = encode s := by
  constructor
  · intro read
    simp only [decode?] at read
    by_cases whole : (chars bytes).all Option.isSome
    · rw [if_pos whole] at read
      obtain rfl := Option.some.inj read
      have same : chars bytes = ((chars bytes).filterMap id).map some := by
        rw [List.map_filterMap, List.filterMap_eq_map_iff_forall_eq_some.mpr, List.map_id]
        intro c member
        obtain ⟨d, rfl⟩ := Option.isSome_iff_exists.mp (List.all_eq_true.mp whole c member)
        rfl
      rw [encode, String.toList_ofList, flatMap_encodeChar_of_chars same]
    · simp [whole] at read
  · rintro rfl
    simp [decode?, chars_encode]

theorem decode?_encode (s : String) : decode? (encode s) = some s := decode?_eq_some_iff.mpr rfl

theorem decode?_eq_none_iff {bytes : Bytes} : decode? bytes = none ↔ ∀ s, bytes ≠ encode s := by
  rw [Option.eq_none_iff_forall_ne_some]
  exact forall_congr' fun s => not_congr decode?_eq_some_iff

/-- The forgiving reading agrees with the strict one on the octets of a text. -/
theorem decodeLossy_encode (s : String) : decodeLossy (encode s) = s := by
  simp [decodeLossy, chars_encode]

theorem encode_append (a b : String) : encode (a ++ b) = encode a ++ encode b := by
  simp [encode, String.toList_append]

/-- What a text and octets behind it are read as begins with the text. -/
theorem decodeLossy_encode_append (s : String) (bytes : Bytes) :
    decodeLossy (encode s ++ bytes) = s ++ decodeLossy bytes := by
  have read : chars (encode s ++ bytes) = s.toList.map some ++ chars bytes := by
    unfold encode
    induction s.toList with
    | nil => rfl
    | cons c rest ih =>
      rw [List.flatMap_cons, List.append_assoc, chars_encodeChar_append, ih]
      rfl
  rw [decodeLossy, read, List.map_append, String.ofList_append, decodeLossy]
  simp

/-! ### Line ends -/

theorem encodeChar_ascii {c : Char} (ascii : c.toNat < 0x80) : encodeChar c = [.ofNat c.toNat] := by
  rw [encodeChar]
  simp [ascii]

theorem encodeChar_ne_nil (c : Char) : encodeChar c ≠ [] := by
  simp only [encodeChar]
  split_ifs <;> simp

/-- No octet of a character beyond ASCII is an ASCII octet. -/
theorem le_of_mem_encodeChar {c : Char} (beyond : ¬ c.toNat < 0x80) {b : UInt8} (member : b ∈ encodeChar c) :
    0x80 ≤ b.toNat := by
  have valid := toNat_valid c
  simp only [encodeChar, beyond, if_false] at member
  split_ifs at member
  · simp only [List.mem_cons, List.not_mem_nil, or_false] at member
    rcases member with rfl | rfl <;> rw [toNat_ofNat_of_lt (by omega)] <;> omega
  · simp only [List.mem_cons, List.not_mem_nil, or_false] at member
    rcases member with rfl | rfl | rfl <;> rw [toNat_ofNat_of_lt (by omega)] <;> omega
  · simp only [List.mem_cons, List.not_mem_nil, or_false] at member
    rcases member with rfl | rfl | rfl | rfl <;> rw [toNat_ofNat_of_lt (by omega)] <;> omega

/-- An ASCII octet comes from the ASCII character of its number only. -/
theorem eq_of_mem_encodeChar {c d : Char} (ascii : d.toNat < 0x80) (member : .ofNat d.toNat ∈ encodeChar c) :
    c = d := by
  by_cases beyond : c.toNat < 0x80
  · rw [encodeChar_ascii beyond, List.mem_singleton] at member
    have same := congrArg UInt8.toNat member
    rw [toNat_ofNat_of_lt (by omega), toNat_ofNat_of_lt (by omega)] at same
    exact (Char.toNat_inj.mp same).symm
  · have high := le_of_mem_encodeChar beyond member
    rw [toNat_ofNat_of_lt (by omega)] at high
    omega

/-- An ASCII character is among the octets of a text only if it is in the text. -/
theorem not_mem_encode {c : Char} (ascii : c.toNat < 0x80) {s : String} (absent : c ∉ s.toList) :
    .ofNat c.toNat ∉ encode s := by
  intro member
  obtain ⟨d, inside, octet⟩ := List.mem_flatMap.mp member
  exact absent (eq_of_mem_encodeChar ascii octet ▸ inside)

/-- The octets of a text without a line end have none, a line end included whose CR and LF belong to
neighbouring characters. -/
theorem unbroken_encode {s : String} (oneLine : Text.OneLine s) : Unbroken (encode s) := by
  unfold Text.OneLine at oneLine
  unfold encode Unbroken
  generalize s.toList = cs at oneLine
  induction cs with
  | nil => simp [crlf]
  | cons c cs ih =>
    have tail : ¬ ['\r', '\n'] <:+: cs := fun later => oneLine (List.infix_cons later)
    rw [List.flatMap_cons, List.infix_append_iff_ne_nil]
    rintro (within | later | ⟨left, right, leftNonempty, rightNonempty, parts, ending, beginning⟩)
    · have cr : c = '\r' := eq_of_mem_encodeChar (by decide) (within.mem (by simp [crlf]) : (13 : UInt8) ∈ _)
      have lf : c = '\n' := eq_of_mem_encodeChar (by decide) (within.mem (by simp [crlf]) : (10 : UInt8) ∈ _)
      rw [cr] at lf
      exact absurd lf (by decide)
    · exact ih tail later
    · obtain ⟨first, left, rfl⟩ := List.exists_cons_of_ne_nil leftNonempty
      obtain ⟨second, right, rfl⟩ := List.exists_cons_of_ne_nil rightNonempty
      have sizes := congrArg List.length parts
      simp only [crlf, List.length_append, List.length_cons, List.length_nil] at sizes
      obtain rfl : left = [] := List.eq_nil_of_length_eq_zero (by omega)
      obtain rfl : right = [] := List.eq_nil_of_length_eq_zero (by omega)
      obtain ⟨rfl, rfl⟩ : (13 : UInt8) = first ∧ (10 : UInt8) = second := by simpa [crlf] using parts
      have cr : c = '\r' := eq_of_mem_encodeChar (by decide) (ending.mem (by simp) : (13 : UInt8) ∈ _)
      cases cs with
      | nil => simp at beginning
      | cons d cs =>
        obtain ⟨b, rest, octets⟩ := List.exists_cons_of_ne_nil (encodeChar_ne_nil d)
        rw [List.flatMap_cons, octets, List.cons_append, List.cons_prefix_cons] at beginning
        have lf : d = '\n' :=
          eq_of_mem_encodeChar (by decide) (by rw [octets]; simp [← beginning.1] : (10 : UInt8) ∈ _)
        exact oneLine (by rw [cr, lf]; exact ⟨[], cs, rfl⟩)

/-- The octets of a line end are those of its characters. -/
theorem oneLine_of_unbroken_encode {s : String} (unbroken : Unbroken (encode s)) : Text.OneLine s := by
  rintro ⟨before, after, parts⟩
  refine unbroken ⟨before.flatMap encodeChar, after.flatMap encodeChar, ?_⟩
  rw [encode, ← parts, List.flatMap_append, List.flatMap_append]
  rfl

theorem tails_suffix (k bits : Nat) (bytes : Bytes) : (tails k bits bytes).2 <:+ bytes := by
  induction k generalizing bits bytes with
  | zero => exact List.suffix_refl bytes
  | succ k ih =>
    cases bytes with
    | nil => exact List.suffix_refl []
    | cons b rest =>
      rw [tails]
      by_cases continues : isTail b
      · rw [if_pos continues]
        exact (ih _ rest).trans (List.suffix_cons b rest)
      · rw [if_neg continues]

theorem first_suffix (b : UInt8) (rest : Bytes) : (first b rest).2 <:+ rest := by
  unfold first
  split
  · exact List.suffix_refl rest
  · split
    · exact List.suffix_refl rest
    · rename_i lead _
      cases rest with
      | nil => exact List.suffix_refl []
      | cons second more =>
        have left := tails_suffix (lead.tails - 1) (lead.bits * 64 + (second.toNat - 0x80)) more
        simp only
        split
        · split <;> rename_i read <;> rw [read] at left <;> exact left.trans (List.suffix_cons second more)
        · exact List.suffix_refl _

/-- A CR among the characters that are read is the octet that is read first there. -/
theorem eq_of_first_ascii {b : UInt8} {rest : Bytes} {c : Char} (ascii : c.toNat < 0x80)
    (read : (first b rest).1 = some c) : b = .ofNat c.toNat ∧ (first b rest).2 = rest := by
  have octets := encodeChar_of_first (Prod.ext read rfl : first b rest = (some c, (first b rest).2))
  rw [encodeChar_ascii ascii, List.singleton_append, List.cons.injEq] at octets
  exact ⟨octets.1.symm, octets.2⟩

/-- The forgiving reading makes no line end where the octets have none. -/
theorem oneLine_decodeLossy {bytes : Bytes} (unbroken : Unbroken bytes) : Text.OneLine (decodeLossy bytes) := by
  rw [Text.OneLine, decodeLossy, String.toList_ofList]
  induction size : bytes.length using Nat.strongRecOn generalizing bytes with
  | ind n ih =>
    cases bytes with
    | nil => simp [chars_nil]
    | cons b rest =>
      have shorter := first_length_le b rest
      have later : Unbroken (first b rest).2 := fun ends =>
        unbroken (ends.trans ((first_suffix b rest).isInfix.trans (List.suffix_cons b rest).isInfix))
      rw [chars_cons, List.map_cons, List.infix_cons_iff]
      rintro (here | inside)
      · rw [List.cons_prefix_cons] at here
        -- The replacement character is neither CR nor LF.
        have ascii : ∀ {read : Option Char} {c : Char}, c.toNat < 0x80 → c = read.getD '\uFFFD' → read = some c := by
          intro read c small same
          cases read with
          | none =>
            rw [same] at small
            exact absurd small (by decide)
          | some d => rw [same, Option.getD_some]
        obtain ⟨rfl, left⟩ := eq_of_first_ascii (by decide) (ascii (by decide) here.1)
        rw [left] at here
        cases rest with
        | nil => simp [chars_nil] at here
        | cons second more =>
          rw [chars_cons, List.map_cons, List.cons_prefix_cons] at here
          obtain ⟨rfl, -⟩ := eq_of_first_ascii (by decide) (ascii (by decide) here.2.1)
          exact unbroken ⟨[], more, rfl⟩
      · exact ih _ (by rw [← size, List.length_cons]; omega) later rfl inside

end HttpExchange.Utf8
