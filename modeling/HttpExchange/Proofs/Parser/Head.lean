import HttpExchange.Proofs.Headers
import HttpExchange.Proofs.Text.Decimal
import HttpExchange.Proofs.Text.Utf8
import HttpExchange.Proofs.Parser.Step

/-!
What the lines of a head say, told without a reader: blank lines, the start line, then header lines whose
fields are set in turn, a length of the body being declared once and repeated at most. One line read is one
line more in that description, and every description comes from reading its lines.
-/
namespace HttpExchange.Parser
variable {S : Type}
open Text (Denotes)

/-- The field of a header line: name and value are parted by the first colon, both are trimmed. -/
def fieldOf? (line : Bytes) : Option Field :=
  (Text.cut? ':' (Utf8.decodeLossy line)).map fun (name, value) => ⟨Text.trim name, Text.trim value⟩

/-- The fields of header lines. -/
def fieldsOf (lines : List Bytes) : List Field := lines.filterMap fieldOf?

/-- The field declares the length of the body. -/
def IsLength (field : Field) : Prop := Headers.named "Content-Length" field = true

instance : DecidablePred IsLength := fun _ => inferInstanceAs (Decidable (_ = true))

/-- The fields without those that declare the length once more. -/
def lengthOnce : List Field → List Field
  | [] => []
  | field :: rest =>
    if IsLength field then field :: rest.filter fun later => ¬ IsLength later else field :: lengthOnce rest

/-- The length of the body that fields declare, all of them the same one. -/
def Declare (fields : List Field) : Option Nat → Prop
  | none => ∀ field ∈ fields, ¬ IsLength field
  | some length => length < lengthBound ∧ (∃ field ∈ fields, IsLength field) ∧
      ∀ field ∈ fields, IsLength field → Denotes field.value length

/-- Why a declared length is refused, given the one known so far. -/
inductive LengthRefused (known : Option Nat) (value : String) : LengthFault → Prop
  | unreadable (none : ∀ length < lengthBound, ¬ Denotes value length) : LengthRefused known value (.unreadable value)
  | conflicting {earlier length : Nat} (same : known = some earlier) (denotes : Denotes value length)
      (below : length < lengthBound) (differ : earlier ≠ length) :
      LengthRefused known value (.conflicting earlier length)

/-! ### Lengths -/

theorem declaredLength_some_iff {known : Option Nat} {value : String} {length : Nat} :
    declaredLength known value = .ok (some length) ↔ known = none ∧ Denotes value length ∧ length < lengthBound := by
  unfold declaredLength
  cases read : Text.naturalBelow? lengthBound value with
  | none =>
    rw [Text.naturalBelow?_eq_none_iff] at read
    simp [read length]
  | some given =>
    rw [← Text.naturalBelow?_eq_some_iff, read]
    cases known with
    | none => simp
    | some earlier => by_cases same : earlier = given <;> simp [same]

theorem declaredLength_none_iff {known : Option Nat} {value : String} :
    declaredLength known value = .ok none ↔
      ∃ length, known = some length ∧ Denotes value length ∧ length < lengthBound := by
  unfold declaredLength
  cases read : Text.naturalBelow? lengthBound value with
  | none =>
    rw [Text.naturalBelow?_eq_none_iff] at read
    simp [read]
  | some given =>
    simp only [← Text.naturalBelow?_eq_some_iff, read]
    cases known with
    | none => simp
    | some earlier =>
      by_cases same : earlier = given
      · simp [same]
      · simp [same, Ne.symm same]

theorem declaredLength_error_iff {known : Option Nat} {value : String} {fault : LengthFault} :
    declaredLength known value = .error fault ↔ LengthRefused known value fault := by
  unfold declaredLength
  constructor
  · intro refused
    cases read : Text.naturalBelow? lengthBound value with
    | none =>
      simp only [read, Except.error.injEq] at refused
      subst refused
      exact .unreadable fun length below denotes => Text.naturalBelow?_eq_none_iff.mp read length ⟨denotes, below⟩
    | some given =>
      obtain ⟨denotes, below⟩ := Text.naturalBelow?_eq_some_iff.mp read
      cases known with
      | none => simp [read] at refused
      | some earlier =>
        by_cases same : earlier = given
        · simp [read, same] at refused
        · simp only [read, same, if_false, Except.error.injEq] at refused
          subst refused
          exact .conflicting rfl denotes below same
  · rintro (none | ⟨rfl, denotes, below, differ⟩)
    · have read := Text.naturalBelow?_eq_none_iff.mpr fun length ⟨denotes, below⟩ => none length below denotes
      rw [read]
    · rw [Text.naturalBelow?_eq_some_iff.mpr ⟨denotes, below⟩]
      simp [differ]

theorem Declare.unique {fields : List Field} {one other : Option Nat} (first : Declare fields one)
    (second : Declare fields other) : one = other := by
  cases one with
  | none =>
    cases other with
    | none => rfl
    | some length =>
      obtain ⟨-, ⟨field, member, isLength⟩, -⟩ := second
      exact absurd isLength (first field member)
  | some length =>
    obtain ⟨-, ⟨field, member, isLength⟩, denote⟩ := first
    cases other with
    | none => exact absurd isLength (second field member)
    | some given => rw [(denote field member isLength).unique (second.2.2 field member isLength)]

/-- The first of some fields declare a length or none. -/
theorem Declare.of_append {fields more : List Field} {length : Option Nat}
    (declared : Declare (fields ++ more) length) :
    ∃ earlier, Declare fields earlier := by
  by_cases known : ∃ field ∈ fields, IsLength field
  · obtain ⟨field, member, isLength⟩ := known
    cases length with
    | none => exact absurd isLength (declared field (List.mem_append_left more member))
    | some length =>
      obtain ⟨below, -, denote⟩ := declared
      exact ⟨some length, below, ⟨field, member, isLength⟩, fun other inside =>
        denote other (List.mem_append_left more inside)⟩
  · exact ⟨none, fun field member isLength => known ⟨field, member, isLength⟩⟩

/-- A first length is declared. -/
theorem Declare.append_first {fields : List Field} {field : Field} {length : Nat} (unknown : Declare fields none)
    (isLength : IsLength field) (denotes : Denotes field.value length) (below : length < lengthBound) :
    Declare (fields ++ [field]) (some length) := by
  refine ⟨below, ⟨field, by simp, isLength⟩, fun other member otherIsLength => ?_⟩
  rcases List.mem_append.mp member with earlier | last
  · exact absurd otherIsLength (unknown other earlier)
  · rwa [List.mem_singleton.mp last]

/-- A known length is repeated. -/
theorem Declare.append_repeated {fields : List Field} {field : Field} {length : Nat}
    (known : Declare fields (some length)) (denotes : Denotes field.value length) :
    Declare (fields ++ [field]) (some length) := by
  obtain ⟨below, ⟨earlier, found, earlierIsLength⟩, denote⟩ := known
  refine ⟨below, ⟨earlier, by simp [found], earlierIsLength⟩, fun other member otherIsLength => ?_⟩
  rcases List.mem_append.mp member with earlier | last
  · exact denote other earlier otherIsLength
  · rwa [List.mem_singleton.mp last]

theorem declare_append_of_not_isLength {fields : List Field} {field : Field} (other : ¬ IsLength field)
    (length : Option Nat) : Declare (fields ++ [field]) length ↔ Declare fields length := by
  cases length <;> simp [Declare, or_imp, forall_and, or_and_right, exists_or, other]

/-- A field that does not declare a length again is kept. -/
theorem lengthOnce_append {field : Field} {fields : List Field} (new : IsLength field → Declare fields none) :
    lengthOnce (fields ++ [field]) = lengthOnce fields ++ [field] := by
  induction fields with
  | nil => simp [lengthOnce]
  | cons first rest ih =>
    by_cases here : IsLength first
    · have other : ¬ IsLength field := fun isLength => new isLength first (by simp) here
      simp [lengthOnce, here, other]
    · simp [lengthOnce, here, ih fun isLength later member => new isLength later (by simp [member])]

theorem lengthOnce_append_of_repeated {field : Field} {fields : List Field} {length : Nat} (isLength : IsLength field)
    (known : Declare fields (some length)) : lengthOnce (fields ++ [field]) = lengthOnce fields := by
  obtain ⟨-, ⟨earlier, member, found⟩, -⟩ := known
  induction fields with
  | nil => simp at member
  | cons first rest ih =>
    by_cases here : IsLength first
    · simp [lengthOnce, here, isLength]
    · have later : earlier ∈ rest := by
        rcases List.mem_cons.mp member with rfl | later
        · exact absurd found here
        · exact later
      simp [lengthOnce, here, ih later]

theorem mem_of_mem_lengthOnce {field : Field} {fields : List Field} (member : field ∈ lengthOnce fields) :
    field ∈ fields := by
  induction fields with
  | nil => exact member
  | cons first rest ih =>
    rw [lengthOnce] at member
    split at member
    · exact (List.mem_cons.mp member).elim (by rintro rfl; simp) fun later =>
        List.mem_cons_of_mem _ (List.mem_filter.mp later).1
    · exact (List.mem_cons.mp member).elim (by rintro rfl; simp) fun later => List.mem_cons_of_mem _ (ih later)

theorem mem_lengthOnce {field : Field} (other : ¬ IsLength field) {fields : List Field} (member : field ∈ fields) :
    field ∈ lengthOnce fields := by
  induction fields with
  | nil => exact member
  | cons first rest ih =>
    rw [lengthOnce]
    rcases List.mem_cons.mp member with rfl | later
    · rw [if_neg other]
      exact List.mem_cons_self ..
    · split
      · exact List.mem_cons_of_mem _ (List.mem_filter.mpr ⟨later, by simpa using other⟩)
      · exact List.mem_cons_of_mem _ (ih later)

/-! ### Header lines -/

/-- What a header line makes of a message is what its field makes of it. -/
theorem headerLine_eq (m : Message S) (line : Bytes) :
    headerLine m line = match fieldOf? line with
      | none => .ok m
      | some field =>
        if IsLength field then match declaredLength m.contentLength field.value with
          | .error fault => .error fault
          | .ok none => .ok m
          | .ok (some length) =>
            .ok { m with contentLength := some length, headers := m.headers.set field.name field.value }
        else .ok { m with headers := m.headers.set field.name field.value } := by
  unfold headerLine fieldOf?
  cases Text.cut? ':' (Utf8.decodeLossy line) with
  | none => rfl
  | some halves => rfl

theorem fieldsOf_append (lines more : List Bytes) : fieldsOf (lines ++ more) = fieldsOf lines ++ fieldsOf more :=
  List.filterMap_append

theorem fieldsOf_append_of_none {line : Bytes} (none : fieldOf? line = none) (lines : List Bytes) :
    fieldsOf (lines ++ [line]) = fieldsOf lines := by
  rw [fieldsOf_append, fieldsOf, fieldsOf, List.filterMap_cons_none none, List.filterMap_nil, List.append_nil]

theorem fieldsOf_append_of_some {line : Bytes} {field : Field} (found : fieldOf? line = some field)
    (lines : List Bytes) : fieldsOf (lines ++ [line]) = fieldsOf lines ++ [field] := by
  rw [fieldsOf_append, fieldsOf, fieldsOf, List.filterMap_cons_some found, List.filterMap_nil]

theorem headerLine_error_iff {m : Message S} {line : Bytes} {fault : LengthFault} :
    headerLine m line = .error fault ↔
      ∃ field, fieldOf? line = some field ∧ IsLength field ∧ LengthRefused m.contentLength field.value fault := by
  rw [headerLine_eq]
  cases fieldOf? line with
  | none => simp
  | some field =>
    by_cases isLength : IsLength field
    · simp only [isLength, if_true, Option.some.injEq, exists_eq_left', true_and, ← declaredLength_error_iff]
      rcases declaredLength m.contentLength field.value with _ | _ | _ <;> simp
    · simp [isLength]

variable [StartLine S]

/-- The start line and the header lines of a head make up a message without a body so far. -/
structure HeadOf (start : Bytes) (lines : List Bytes) (m : Message S) : Prop where
  nonblank : start ≠ [] ∧ ∀ line ∈ lines, line ≠ []
  start : ∃ text, start = Utf8.encode text ∧ StartLine.ofText text = .ok m.start
  declared : Declare (fieldsOf lines) m.contentLength
  headers : m.headers = .ofList (lengthOnce (fieldsOf lines))
  body : m.body = []

theorem startLine_ok_iff {line : Bytes} {start : S} :
    startLine line = .ok start ↔ ∃ text, line = Utf8.encode text ∧ StartLine.ofText text = .ok start := by
  unfold startLine
  simp only [← Utf8.decode?_eq_some_iff]
  cases Utf8.decode? line <;> simp

/-- Lines have one meaning at most. -/
theorem HeadOf.unique {start : Bytes} {lines : List Bytes} {m other : Message S} (head : HeadOf start lines m)
    (otherHead : HeadOf start lines other) : m = other := by
  have sameStart : (Except.ok m.start : Except StartLineFault S) = .ok other.start := by
    rw [← startLine_ok_iff.mpr head.start, ← startLine_ok_iff.mpr otherHead.start]
  have sameLength := head.declared.unique otherHead.declared
  have sameHeaders := head.headers.trans otherHead.headers.symm
  have sameBody := head.body.trans otherHead.body.symm
  cases m
  cases other
  simp only [Except.ok.injEq] at sameStart sameLength sameHeaders sameBody
  rw [sameStart, sameLength, sameHeaders, sameBody]

/-- A start line alone means a message of which nothing else is known. -/
theorem headOf_nil_iff {line : Bytes} {m : Message S} :
    HeadOf line [] m ↔ line ≠ [] ∧ ∃ start, startLine line = .ok start ∧ m = .ofStart start := by
  constructor
  · intro head
    refine ⟨head.nonblank.1, m.start, startLine_ok_iff.mpr head.start, ?_⟩
    have sameLength : m.contentLength = none := head.declared.unique (by simp [fieldsOf, Declare])
    have sameHeaders : m.headers = .empty := head.headers
    have sameBody := head.body
    cases m
    simp only at sameLength sameHeaders sameBody
    rw [sameLength, sameHeaders, sameBody, Message.ofStart]
  · rintro ⟨nonblank, start, read, rfl⟩
    exact ⟨⟨nonblank, by simp⟩, startLine_ok_iff.mp read, by simp [fieldsOf, Declare, Message.ofStart], rfl, rfl⟩

/-- Without its last line a head still has a meaning. -/
theorem HeadOf.of_append {start : Bytes} {lines more : List Bytes} {m : Message S}
    (head : HeadOf start (lines ++ more) m) : ∃ earlier : Message S, HeadOf start lines earlier := by
  have declared := head.declared
  rw [fieldsOf_append] at declared
  obtain ⟨length, declared⟩ := declared.of_append
  exact ⟨⟨m.start, .ofList (lengthOnce (fieldsOf lines)), length, []⟩,
    ⟨head.nonblank.1, fun line member => head.nonblank.2 line (by simp [member])⟩, head.start, declared, rfl, rfl⟩

/-- A header line that is taken is one more line of the head. -/
theorem HeadOf.append {start line : Bytes} {lines : List Bytes} {m next : Message S} (head : HeadOf start lines m)
    (nonblank : line ≠ []) (taken : headerLine m line = .ok next) : HeadOf start (lines ++ [line]) next := by
  have nonblankLines : start ≠ [] ∧ ∀ other ∈ lines ++ [line], other ≠ [] := by
    refine ⟨head.nonblank.1, fun other member => ?_⟩
    rcases List.mem_append.mp member with member | member
    · exact head.nonblank.2 other member
    · rwa [List.mem_singleton.mp member]
  rw [headerLine_eq] at taken
  cases found : fieldOf? line with
  | none =>
    have append := fieldsOf_append_of_none found lines
    simp only [found, Except.ok.injEq] at taken
    subst taken
    exact ⟨nonblankLines, head.start, append ▸ head.declared, append ▸ head.headers, head.body⟩
  | some field =>
    have append := fieldsOf_append_of_some found lines
    simp only [found] at taken
    by_cases isLength : IsLength field
    · rw [if_pos isLength] at taken
      cases read : declaredLength m.contentLength field.value with
      | error fault => simp [read] at taken
      | ok given =>
        cases given with
        | none =>
          -- The length is repeated.
          simp only [read, Except.ok.injEq] at taken
          subst taken
          obtain ⟨length, known, denotes, -⟩ := declaredLength_none_iff.mp read
          have declared := head.declared
          rw [known] at declared
          refine ⟨nonblankLines, head.start, ?_, ?_, head.body⟩
          · rw [append, known]
            exact declared.append_repeated denotes
          · rw [append, lengthOnce_append_of_repeated isLength declared]
            exact head.headers
        | some length =>
          -- The length is declared for the first time.
          simp only [read, Except.ok.injEq] at taken
          subst taken
          obtain ⟨unknown, denotes, below⟩ := declaredLength_some_iff.mp read
          have declared := head.declared
          rw [unknown] at declared
          refine ⟨nonblankLines, head.start, ?_, ?_, head.body⟩
          · rw [append]
            exact declared.append_first isLength denotes below
          · rw [append, lengthOnce_append fun _ => declared, Headers.ofList_append_singleton, ← head.headers]
    · rw [if_neg isLength, Except.ok.injEq] at taken
      subst taken
      refine ⟨nonblankLines, head.start, ?_, ?_, head.body⟩
      · rw [append]
        exact (declare_append_of_not_isLength isLength _).mpr head.declared
      · rw [append, lengthOnce_append (absurd · isLength), Headers.ofList_append_singleton, ← head.headers]

/-- No line of a head is refused: with a refused one, its lines declare no length or several. -/
theorem HeadOf.not_refused {start line : Bytes} {lines : List Bytes} {m next : Message S} {fault : LengthFault}
    (head : HeadOf start lines m) (whole : HeadOf start (lines ++ [line]) next) :
    headerLine m line ≠ .error fault := by
  intro refused
  obtain ⟨field, found, isLength, refused⟩ := headerLine_error_iff.mp refused
  have declared := whole.declared
  rw [fieldsOf_append_of_some found] at declared
  cases total : next.contentLength with
  | none =>
    rw [total] at declared
    exact declared field (by simp) isLength
  | some length =>
    simp only [total] at declared
    obtain ⟨below, -, denote⟩ := declared
    have last := denote field (by simp) isLength
    cases refused with
    | unreadable none => exact none length below last
    | conflicting known denotes _ differ =>
      have earlier := head.declared
      rw [known] at earlier
      obtain ⟨-, ⟨other, member, otherIsLength⟩, denoteEarlier⟩ := earlier
      have one := denoteEarlier other member otherIsLength
      have same := denote other (List.mem_append_left _ member) otherIsLength
      exact differ ((one.unique same).trans (last.unique denotes))

/-- Every head is read line by line. -/
theorem HeadOf.last {start line : Bytes} {lines : List Bytes} {next : Message S}
    (whole : HeadOf start (lines ++ [line]) next) :
    ∃ m : Message S, HeadOf start lines m ∧ headerLine m line = .ok next := by
  obtain ⟨m, head⟩ := whole.of_append
  refine ⟨m, head, ?_⟩
  cases taken : headerLine m line with
  | error fault => exact absurd taken (head.not_refused whole)
  | ok other => rw [(head.append (whole.nonblank.2 line (by simp)) taken).unique whole]

/-! ### What complete lines come to -/

/-- Behind blank lines a reader waits for the start line, behind the start line for header lines. -/
inductive Awaits : List Bytes → Awaiting S → Prop
  | startLine {blank : List Bytes} (all : ∀ line ∈ blank, line = []) : Awaits blank .startLine
  | headers {blank lines : List Bytes} {start : Bytes} {m : Message S} (all : ∀ line ∈ blank, line = [])
      (head : HeadOf start lines m) : Awaits (blank ++ start :: lines) (.headers m)

theorem Awaits.inHead {before : List Bytes} {state : Awaiting S} (awaits : Awaits before state) :
    state.InHead := by
  cases awaits <;> trivial

theorem Awaits.of_nil {state : Awaiting S} (awaits : Awaits [] state) : state = .startLine := by
  generalize none : ([] : List Bytes) = before at awaits
  cases awaits with
  | startLine => rfl
  | headers => simp at none

/-- A line that is read without ending the head is one more complete line. -/
theorem Awaits.append {before : List Bytes} {state next : Awaiting S} (awaits : Awaits before state)
    {ignore : Bool} {line : Bytes} (read : interpret ignore line state = .ok next) (inHead : next.InHead) :
    Awaits (before ++ [line]) next := by
  rcases interpret_ok awaits.inHead read with ⟨rfl, rfl, rfl⟩ | ⟨nonblank, rfl, start, taken, rfl⟩ |
      ⟨nonblank, m, changed, rfl, taken, rfl⟩ | ⟨-, -, -, -, behindHead⟩
  · cases awaits with
    | startLine all =>
      exact .startLine fun other member => by
        rcases List.mem_append.mp member with member | member
        · exact all other member
        · exact List.mem_singleton.mp member
  · cases awaits with
    | startLine all => exact .headers all (headOf_nil_iff.mpr ⟨nonblank, start, taken, rfl⟩)
  · cases awaits with
    | headers all head =>
      rw [List.append_assoc, List.cons_append]
      exact .headers all (head.append nonblank taken)
  · exact absurd inHead behindHead

/-- Complete lines come to what they come to by reading the last of them. -/
theorem Awaits.last {before : List Bytes} {line : Bytes} {state : Awaiting S}
    (awaits : Awaits (before ++ [line]) state) :
    ∃ earlier : Awaiting S, Awaits before earlier ∧ ∀ ignore, Parser.interpret ignore line earlier = .ok state := by
  generalize whole : before ++ [line] = lines at awaits
  cases awaits with
  | startLine all =>
    subst whole
    have blank : line = [] := all line (by simp)
    subst blank
    exact ⟨.startLine, .startLine fun other member => all other (by simp [member]), fun _ => rfl⟩
  | @headers blanks lines start m all head =>
    rcases List.eq_nil_or_concat lines with rfl | ⟨earlier, last, rfl⟩
    · obtain ⟨rfl, rfl⟩ := List.append_inj' whole rfl |>.imp_right List.singleton_inj.mp
      obtain ⟨nonblank, value, read, rfl⟩ := headOf_nil_iff.mp head
      exact ⟨.startLine, .startLine all, fun _ => by rw [interpret_startLine nonblank, read]⟩
    · rw [List.concat_eq_append] at whole head
      rw [← List.cons_append, ← List.append_assoc] at whole
      obtain ⟨rfl, rfl⟩ := List.append_inj' whole rfl |>.imp_right List.singleton_inj.mp
      have nonblank : line ≠ [] := head.nonblank.2 line (by simp)
      obtain ⟨m', head, taken⟩ := head.last
      exact ⟨.headers m', .headers all head, fun _ => by rw [interpret_headers nonblank, taken]⟩

end HttpExchange.Parser
