import HttpExchange.Bytes
import Mathlib

/-!
Where lines end. The search finds the leftmost CR LF at or after its start, so a search may be resumed
behind octets that hold none, and octets that come later never change a line end that was found.
-/
namespace HttpExchange.Bytes

/-- A CR LF starts at position `i`. -/
def LineEndAt (bytes : Bytes) (i : Nat) : Prop := bytes[i]? = some 13 ∧ bytes[i + 1]? = some 10

/-- No CR LF stands in the string. -/
def Unbroken (bytes : Bytes) : Prop := ¬ crlf <:+: bytes

theorem LineEndAt.lt {bytes : Bytes} {i : Nat} (ends : LineEndAt bytes i) : i + 1 < bytes.length :=
  (List.getElem?_eq_some_iff.mp ends.2).1

/-- A line end parts what stands before it from what follows. -/
theorem LineEndAt.parts {bytes : Bytes} {i : Nat} (ends : LineEndAt bytes i) :
    bytes = bytes.take i ++ crlf ++ bytes.drop (i + 2) := by
  have inside := ends.lt
  rw [LineEndAt, List.getElem?_eq_getElem (by omega), List.getElem?_eq_getElem inside] at ends
  have split := (List.take_append_drop i bytes).symm
  rw [List.drop_eq_getElem_cons (by omega), List.drop_eq_getElem_cons inside, Option.some.inj ends.1,
    Option.some.inj ends.2] at split
  simpa [crlf] using split

theorem lineEndAt_drop {bytes : Bytes} {start i : Nat} :
    LineEndAt (bytes.drop start) i ↔ LineEndAt bytes (start + i) := by
  simp [LineEndAt, Nat.add_assoc]

/-- Whether a line ends at a position is settled by the octets up to the LF. -/
theorem lineEndAt_append {bytes : Bytes} {i : Nat} (more : Bytes) (inside : i + 1 < bytes.length) :
    LineEndAt (bytes ++ more) i ↔ LineEndAt bytes i := by
  simp only [LineEndAt, List.getElem?_append_left inside,
    List.getElem?_append_left (show i < bytes.length by omega)]

theorem lineEndAt_cons_succ {b : UInt8} {bytes : Bytes} {i : Nat} :
    LineEndAt (b :: bytes) (i + 1) ↔ LineEndAt bytes i := by
  simp [LineEndAt]

theorem lineEndAt_cons_zero {b : UInt8} {bytes : Bytes} :
    LineEndAt (b :: bytes) 0 ↔ b = 13 ∧ bytes.head? = some 10 := by
  cases bytes <;> simp [LineEndAt]

/-! ### The search -/

private theorem lineEndFrom_spec (n : Nat) (bytes : Bytes) :
    match lineEndFrom n bytes with
    | none => ∀ j, ¬ LineEndAt bytes j
    | some i => ∃ k, i = n + k ∧ LineEndAt bytes k ∧ ∀ j < k, ¬ LineEndAt bytes j := by
  induction bytes generalizing n with
  | nil => simp [lineEndFrom, LineEndAt]
  | cons b rest ih =>
    by_cases here : b = 13 ∧ rest.head? = some 10
    · simp only [lineEndFrom, here, and_self, if_true]
      exact ⟨0, rfl, lineEndAt_cons_zero.mpr ⟨rfl, here.2⟩, by simp⟩
    · have first : ¬ LineEndAt (b :: rest) 0 := fun ends => here (lineEndAt_cons_zero.mp ends)
      have later := ih (n + 1)
      simp only [lineEndFrom, here, if_false]
      cases found : lineEndFrom (n + 1) rest with
      | none =>
        simp only [found] at later ⊢
        rintro (_ | j)
        · exact first
        · exact fun ends => later j (lineEndAt_cons_succ.mp ends)
      | some i =>
        simp only [found] at later ⊢
        obtain ⟨k, place, ends, least⟩ := later
        refine ⟨k + 1, by omega, lineEndAt_cons_succ.mpr ends, ?_⟩
        rintro (_ | j) before
        · exact first
        · exact fun earlier => least j (by omega) (lineEndAt_cons_succ.mp earlier)

theorem lineEnd?_eq_none_iff {bytes : Bytes} {start : Nat} :
    bytes.lineEnd? start = none ↔ ∀ j, start ≤ j → ¬ LineEndAt bytes j := by
  have spec := lineEndFrom_spec start (bytes.drop start)
  unfold lineEnd?
  cases found : lineEndFrom start (bytes.drop start) with
  | none =>
    simp only [found, lineEndAt_drop] at spec
    refine ⟨fun _ j later => ?_, fun _ => rfl⟩
    have := spec (j - start)
    rwa [Nat.add_sub_cancel' later] at this
  | some i =>
    simp only [found, lineEndAt_drop] at spec
    obtain ⟨k, -, ends, -⟩ := spec
    exact ⟨fun absent => (Option.some_ne_none _ absent).elim,
      fun absent => (absent _ (Nat.le_add_right start k) ends).elim⟩

theorem lineEnd?_eq_some_iff {bytes : Bytes} {start i : Nat} :
    bytes.lineEnd? start = some i ↔
      start ≤ i ∧ LineEndAt bytes i ∧ ∀ j, start ≤ j → j < i → ¬ LineEndAt bytes j := by
  have spec := lineEndFrom_spec start (bytes.drop start)
  unfold lineEnd?
  cases found : lineEndFrom start (bytes.drop start) with
  | none =>
    simp only [found, lineEndAt_drop] at spec
    refine ⟨fun absent => (Option.some_ne_none _ absent.symm).elim, ?_⟩
    rintro ⟨later, ends, -⟩
    exact (spec (i - start) (by rwa [Nat.add_sub_cancel' later])).elim
  | some least =>
    simp only [found, lineEndAt_drop] at spec
    obtain ⟨k, rfl, ends, none⟩ := spec
    have before : ∀ j, start ≤ j → j < start + k → ¬ LineEndAt bytes j := by
      intro j later earlier
      have := none (j - start) (by omega)
      rwa [Nat.add_sub_cancel' later] at this
    constructor
    · intro same
      cases same
      exact ⟨by omega, ends, before⟩
    · rintro ⟨later, other, unique⟩
      rcases Nat.lt_trichotomy (start + k) i with less | same | more
      · exact (unique _ (by omega) less ends).elim
      · rw [same]
      · exact (before _ later more other).elim

/-- A search may start behind octets at which no line ends. -/
theorem lineEnd?_resumed {bytes : Bytes} {start : Nat} (none : ∀ j < start, ¬ LineEndAt bytes j) :
    bytes.lineEnd? start = bytes.lineEnd? 0 := by
  cases found : bytes.lineEnd? start with
  | none =>
    rw [lineEnd?_eq_none_iff] at found
    refine (lineEnd?_eq_none_iff.mpr fun j _ => ?_).symm
    by_cases before : j < start
    · exact none j before
    · exact found j (by omega)
  | some i =>
    obtain ⟨later, ends, least⟩ := lineEnd?_eq_some_iff.mp found
    refine (lineEnd?_eq_some_iff.mpr ⟨by omega, ends, fun j _ earlier => ?_⟩).symm
    by_cases before : j < start
    · exact none j before
    · exact least j (by omega) earlier

/-- Octets that come later leave a line end that was found where it is. -/
theorem lineEnd?_append {bytes : Bytes} {start i : Nat} (found : bytes.lineEnd? start = some i) (more : Bytes) :
    (bytes ++ more).lineEnd? start = some i := by
  obtain ⟨later, ends, least⟩ := lineEnd?_eq_some_iff.mp found
  have inside := ends.lt
  refine lineEnd?_eq_some_iff.mpr ⟨later, (lineEndAt_append more inside).mpr ends, fun j after earlier => ?_⟩
  rw [lineEndAt_append more (by omega)]
  exact least j after earlier

/-- A line end that only later octets complete starts at the last octet or after it. -/
theorem length_le_of_lineEnd?_append {bytes more : Bytes} {start i : Nat}
    (none : bytes.lineEnd? start = none) (found : (bytes ++ more).lineEnd? start = some i) :
    bytes.length ≤ i + 1 := by
  obtain ⟨later, ends, -⟩ := lineEnd?_eq_some_iff.mp found
  by_contra short
  exact lineEnd?_eq_none_iff.mp none i later ((lineEndAt_append more (by omega)).mp ends)

/-! ### Lines -/

theorem unbroken_iff {bytes : Bytes} : Unbroken bytes ↔ ∀ i, ¬ LineEndAt bytes i := by
  unfold Unbroken
  refine ⟨fun none i ends => none ⟨bytes.take i, bytes.drop (i + 2), ends.parts.symm⟩, ?_⟩
  · rintro none ⟨before, after, rfl⟩
    exact none before.length (by simp [LineEndAt, crlf])

theorem lineEnd?_eq_none_iff_unbroken {bytes : Bytes} : bytes.lineEnd? 0 = none ↔ Unbroken bytes := by
  simp [lineEnd?_eq_none_iff, unbroken_iff]

theorem unbroken_nil : Unbroken [] := unbroken_iff.mpr fun i ends => by simp [LineEndAt] at ends

/-- The first line end of a line with its end and more behind it. -/
theorem lineEnd?_line {line : Bytes} (unbroken : Unbroken line) (rest : Bytes) :
    (line ++ crlf ++ rest).lineEnd? 0 = some line.length := by
  refine lineEnd?_eq_some_iff.mpr ⟨by omega, by simp [LineEndAt, crlf], fun j _ before ends => ?_⟩
  by_cases inside : j + 1 < line.length
  · rw [List.append_assoc, lineEndAt_append _ inside] at ends
    exact unbroken_iff.mp unbroken j ends
  · have last : j + 1 = line.length := by omega
    have second := ends.2
    rw [last] at second
    simp [crlf] at second

/-- A line end that was found parts a line, its end and the rest. -/
theorem line_of_lineEnd? {bytes : Bytes} {i : Nat} (found : bytes.lineEnd? 0 = some i) :
    Unbroken (bytes.take i) ∧ bytes = bytes.take i ++ crlf ++ bytes.drop (i + 2) := by
  obtain ⟨-, ends, least⟩ := lineEnd?_eq_some_iff.mp found
  refine ⟨unbroken_iff.mpr fun j earlier => ?_, ends.parts⟩
  have bound := earlier.lt
  rw [List.length_take] at bound
  have same := lineEndAt_append (bytes.drop i) earlier.lt
  rw [List.take_append_drop] at same
  exact least j (by omega) (by omega) (same.mpr earlier)

/-- Lines as they stand in an input, each with its end. -/
def ended (lines : List Bytes) : Bytes := lines.flatMap (· ++ crlf)

theorem ended_append (lines more : List Bytes) : ended (lines ++ more) = ended lines ++ ended more :=
  List.flatMap_append

theorem ended_singleton (line : Bytes) : ended [line] = line ++ crlf := by simp [ended]

theorem ended_cons (line : Bytes) (lines : List Bytes) : ended (line :: lines) = line ++ crlf ++ ended lines :=
  List.flatMap_cons

/-- A proper beginning of a line with its end holds no line end. -/
theorem unbroken_of_prefix {line part : Bytes} (unbroken : Unbroken line) (inside : part <+: line ++ crlf)
    (proper : part ≠ line ++ crlf) : Unbroken part := by
  have shorter : part.length < line.length + 2 := by
    have := inside.length_le.lt_of_ne fun same => proper (inside.eq_of_length same)
    simpa [crlf] using this
  obtain ⟨more, whole⟩ := inside
  obtain ⟨-, -, least⟩ := lineEnd?_eq_some_iff.mp (lineEnd?_line unbroken [])
  refine unbroken_iff.mpr fun i ends => ?_
  have bound := ends.lt
  refine least i (by omega) (by omega) ?_
  rw [List.append_nil, ← whole]
  exact (lineEndAt_append more bound).mpr ends

/-- A proper beginning of lines is some of them and an unfinished one. -/
theorem exists_of_prefix_ended {lines : List Bytes} (unbroken : ∀ line ∈ lines, Unbroken line) {part : Bytes}
    (inside : part <+: ended lines) (proper : part ≠ ended lines) :
    ∃ before line rest, before ++ [line] <+: lines ∧ part = ended before ++ rest ∧ Unbroken rest := by
  induction lines generalizing part with
  | nil => exact absurd (List.prefix_nil.mp inside) proper
  | cons line lines ih =>
    rw [ended_cons] at inside proper
    by_cases complete : line ++ crlf <+: part
    · obtain ⟨more, rfl⟩ := complete
      rw [List.prefix_append_right_inj] at inside
      obtain ⟨before, next, rest, lines, rfl, unfinished⟩ :=
        ih (fun line member => unbroken line (by simp [member])) inside fun same => proper (by rw [same])
      exact ⟨line :: before, next, rest, by simpa using lines, by simp [ended], unfinished⟩
    · have within : part <+: line ++ crlf :=
        (List.prefix_or_prefix_of_prefix inside (List.prefix_append _ _)).resolve_right complete
      have short : part ≠ line ++ crlf := fun same => complete (same ▸ List.prefix_refl _)
      exact ⟨[], line, part, by simp, rfl, unbroken_of_prefix (unbroken line (by simp)) within short⟩

/-- Lines at the beginning of one input begin with each other. -/
theorem prefix_or_prefix_of_ended {lines others : List Bytes} (unbroken : ∀ line ∈ lines, Unbroken line)
    (unbrokenOthers : ∀ line ∈ others, Unbroken line) {rest otherRest : Bytes}
    (same : ended lines ++ rest = ended others ++ otherRest) : lines <+: others ∨ others <+: lines := by
  induction lines generalizing others with
  | nil => exact .inl List.nil_prefix
  | cons line lines ih =>
    cases others with
    | nil => exact .inr List.nil_prefix
    | cons other others =>
      rw [ended_cons, ended_cons, List.append_assoc, List.append_assoc (other ++ crlf)] at same
      have first := lineEnd?_line (unbroken line (by simp)) (ended lines ++ rest)
      rw [same, lineEnd?_line (unbrokenOthers other (by simp)), Option.some.injEq] at first
      have here : line ++ crlf = other ++ crlf := List.append_inj_left same (by simp [first])
      obtain rfl := List.append_cancel_right here
      rw [List.append_cancel_left_eq] at same
      simp only [List.prefix_cons_inj]
      exact ih (fun line member => unbroken line (by simp [member]))
        (fun line member => unbrokenOthers line (by simp [member])) same

/-! ### Taking lines apart -/

/-- What stands between the line ends. -/
def lines : Bytes → List Bytes
  | [] => [[]]
  | [b] => [[b]]
  | b :: c :: rest => if b = 13 ∧ c = 10 then [] :: lines rest else (lines (c :: rest)).modifyHead (b :: ·)

/-- The first line starts with the first octet unless a line end does. -/
theorem exists_lines_cons (b : UInt8) (bytes : Bytes) :
    ∃ first rest, lines (b :: bytes) = first :: rest ∧ (first = [] ∨ first.head? = some b) := by
  induction bytes generalizing b with
  | nil => exact ⟨[b], [], rfl, .inr rfl⟩
  | cons c rest ih =>
    rw [lines]
    by_cases ends : b = 13 ∧ c = 10
    · rw [if_pos ends]
      exact ⟨[], lines rest, rfl, .inl rfl⟩
    · obtain ⟨first, others, parts, -⟩ := ih c
      rw [if_neg ends, parts]
      exact ⟨b :: first, others, rfl, .inr rfl⟩

/-- Put together again, the lines are the octets and one more line end. -/
theorem ended_lines (bytes : Bytes) : ended (lines bytes) = bytes ++ crlf := by
  induction bytes using lines.induct with
  | case1 => rfl
  | case2 b => rfl
  | case3 b c rest ends ih =>
    obtain ⟨rfl, rfl⟩ := ends
    rw [lines, if_pos ⟨rfl, rfl⟩, ended_cons, ih]
    rfl
  | case4 b c rest open_ ih =>
    obtain ⟨first, others, parts, -⟩ := exists_lines_cons c rest
    rw [lines, if_neg open_, parts, List.modifyHead_cons, ended_cons]
    rw [parts, ended_cons] at ih
    simpa using ih

theorem lines_ne_nil (bytes : Bytes) : lines bytes ≠ [] := by
  intro none
  have whole := ended_lines bytes
  rw [none] at whole
  simp [ended, crlf] at whole

theorem unbroken_of_mem_lines {bytes line : Bytes} (member : line ∈ lines bytes) : Unbroken line := by
  have short : ∀ {part : Bytes}, part.length ≤ 1 → Unbroken part := fun one =>
    unbroken_iff.mpr fun i ends => by have := ends.lt; omega
  induction bytes using lines.induct generalizing line with
  | case1 =>
    rw [lines, List.mem_singleton] at member
    exact short (by simp [member])
  | case2 b =>
    rw [lines, List.mem_singleton] at member
    exact short (by simp [member])
  | case3 b c rest ends ih =>
    rw [lines, if_pos ends] at member
    rcases List.mem_cons.mp member with rfl | later
    · exact short (by simp)
    · exact ih later
  | case4 b c rest open_ ih =>
    obtain ⟨first, others, parts, start⟩ := exists_lines_cons c rest
    rw [lines, if_neg open_, parts, List.modifyHead_cons] at member
    rw [parts] at ih
    rcases List.mem_cons.mp member with rfl | later
    · refine unbroken_iff.mpr fun i ends => ?_
      cases i with
      | zero =>
        obtain ⟨cr, lf⟩ := lineEndAt_cons_zero.mp ends
        rcases start with rfl | start
        · cases lf
        · exact open_ ⟨cr, Option.some.inj (start.symm.trans lf)⟩
      | succ i => exact unbroken_iff.mp (ih (List.mem_cons_self ..)) i (lineEndAt_cons_succ.mp ends)
    · exact ih (List.mem_cons_of_mem _ later)

theorem lines_cons {b : UInt8} (other : b ≠ 13) (rest : Bytes) :
    lines (b :: rest) = (lines rest).modifyHead (b :: ·) := by
  cases rest with
  | nil => rfl
  | cons c rest => rw [lines, if_neg fun ends => other ends.1]

/-- Octets without a CR belong to the first line. -/
theorem lines_append {bytes : Bytes} (none : 13 ∉ bytes) (more : Bytes) :
    lines (bytes ++ more) = (lines more).modifyHead (bytes ++ ·) := by
  induction bytes with
  | nil =>
    rw [List.nil_append]
    cases lines more <;> rfl
  | cons b rest ih =>
    rw [List.mem_cons, not_or] at none
    rw [List.cons_append, lines_cons (Ne.symm none.1), ih none.2, List.modifyHead_modifyHead]
    rfl

theorem lines_of_unbroken {bytes : Bytes} (unbroken : Unbroken bytes) : lines bytes = [bytes] := by
  rw [unbroken_iff] at unbroken
  induction bytes using lines.induct with
  | case1 => rfl
  | case2 b => rfl
  | case3 b c rest ends =>
    have first : LineEndAt (b :: c :: rest) 0 := lineEndAt_cons_zero.mpr ⟨ends.1, by simp [ends.2]⟩
    exact absurd first (unbroken 0)
  | case4 b c rest open_ ih =>
    have later := ih fun i ends => unbroken (i + 1) (lineEndAt_cons_succ.mpr ends)
    rw [lines, if_neg open_, later, List.modifyHead_cons]

/-- Taking every line apart once more makes no difference to the octets. -/
theorem ended_flatMap_lines (parts : List Bytes) : ended (parts.flatMap lines) = ended parts := by
  induction parts with
  | nil => rfl
  | cons part rest ih => rw [List.flatMap_cons, ended_append, ended_lines, ended_cons, ih]

/-! ### How many lines end -/

def lineEnds : Bytes → Nat
  | [] => 0
  | b :: rest => (if b = 13 ∧ rest.head? = some 10 then 1 else 0) + lineEnds rest

theorem lineEnds_crlf_append (rest : Bytes) : lineEnds (crlf ++ rest) = 1 + lineEnds rest := by
  simp [crlf, lineEnds]

/-- Octets put together have the line ends of both, and at most one more where they meet. -/
theorem lineEnds_add_le (bytes more : Bytes) : lineEnds bytes + lineEnds more ≤ lineEnds (bytes ++ more) := by
  induction bytes with
  | nil => rw [lineEnds, List.nil_append, Nat.zero_add]
  | cons b rest ih =>
    rw [List.cons_append, lineEnds, lineEnds]
    by_cases ends : b = 13 ∧ rest.head? = some 10
    · obtain ⟨c, tail, rfl⟩ : ∃ c tail, rest = c :: tail := List.exists_cons_of_ne_nil (by rintro rfl; simp at ends)
      have stays : b = 13 ∧ (c :: tail ++ more).head? = some 10 := ends
      rw [if_pos ends, if_pos stays]
      omega
    · rw [if_neg ends]
      omega

end HttpExchange.Bytes
