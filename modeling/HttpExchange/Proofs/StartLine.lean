import HttpExchange.Request
import HttpExchange.Response
import HttpExchange.Proofs.Text.Blank
import HttpExchange.Proofs.Text.Decimal

/-!
Start lines are read back as they were written, if what they consist of keeps to its place: no white space in
the words of a request line, no space in the version of a response, no line end anywhere.
-/
namespace HttpExchange
open Text (OneLine Blankless trim decimal)

/-! ### Requests -/

/-- The three words are words. -/
@[mk_iff]
structure RequestLine.WireSafe (line : RequestLine) : Prop where
  target : line.target ≠ "" ∧ Blankless line.target
  version : isHttpVersion line.version ∧ Blankless line.version

instance (line : RequestLine) : Decidable line.WireSafe := decidable_of_iff _ (RequestLine.wireSafe_iff line).symm

theorem Method.blankless_name (method : Method) : Blankless method.name := by cases method <;> decide

theorem Method.name_nonempty (method : Method) : method.name.toList ≠ [] := by cases method <;> decide

theorem toList_ne_nil_of_isHttpVersion {version : String} (http : isHttpVersion version) : version.toList ≠ [] := by
  intro empty
  rw [isHttpVersion, empty] at http
  exact absurd http (by decide)

namespace RequestLine
variable {line : RequestLine}

theorem WireSafe.words (safe : line.WireSafe) :
    Text.words line.toText = [line.method.name, line.target, line.version] := by
  have parts : line.toText = line.method.name ++ " " ++ (line.target ++ " " ++ line.version) := by
    simp [toText, String.append_assoc]
  have nonempty : line.target.toList ≠ [] := fun empty => safe.target.1 (String.toList_eq_nil_iff.mp empty)
  rw [parts, Text.words_append line.method.blankless_name line.method.name_nonempty,
    Text.words_append safe.target.2 nonempty,
    Text.words_of_blankless safe.version.2 (toList_ne_nil_of_isHttpVersion safe.version.1)]

/-- A request line is read back as it was written. -/
theorem WireSafe.ofText_toText (safe : line.WireSafe) : ofText line.toText = .ok line := by
  rw [ofText, safe.words]
  simp [safe.version.1, Method.ofName?_name]

/-- A request line that is read consists of three words. -/
theorem wireSafe_of_ofText {text : String} (read : ofText text = .ok line) : line.WireSafe := by
  have words : ∀ word ∈ Text.words text, word.toList ≠ [] ∧ Blankless word := fun _ => Text.of_mem_words
  unfold ofText at read
  split at read
  · cases read
  · cases read
  · cases read
  · rename_i name target version more parts
    by_cases malformed : more ≠ [] ∨ !isHttpVersion version
    · rw [if_pos malformed] at read
      cases read
    · rw [if_neg malformed] at read
      rw [not_or, Bool.not_eq_true', Bool.not_eq_false] at malformed
      cases known : Method.ofName? name with
      | none => simp [known] at read
      | some method =>
        simp only [known, Except.ok.injEq] at read
        subst read
        have word := words target (by simp [parts])
        have last := words version (by simp [parts])
        exact ⟨⟨fun empty => word.1 (String.toList_eq_nil_iff.mpr empty), word.2⟩, ⟨malformed.2, last.2⟩⟩

theorem WireSafe.oneLine (safe : line.WireSafe) : OneLine line.toText := by
  have method := Text.oneLine_of_blankless line.method.blankless_name
  have target := Text.oneLine_of_blankless safe.target.2
  have version := Text.oneLine_of_blankless safe.version.2
  exact Text.oneLine_append (Text.oneLine_append method target rfl (by decide) (by decide)) version rfl (by decide)
    (by decide)

end RequestLine

/-! ### Responses -/

theorem Status.code_ofCode (code : Nat) : (Status.ofCode code).code = code := by
  unfold ofCode
  cases found : named.find? (·.code = code) with
  | none => rfl
  | some status => simpa using List.find?_some found

theorem Status.isBodiless_ofCode (status : Status) : (Status.ofCode status.code).isBodiless = status.isBodiless := by
  rw [isBodiless, isBodiless, code_ofCode]

theorem Status.trim_phrase (status : Status) : trim status.phrase = status.phrase := by
  cases status with
  | other code => rfl
  | _ => decide +kernel

theorem Status.oneLine_phrase (status : Status) : OneLine status.phrase := by
  cases status with
  | other code => exact Text.oneLine_of_blankless (by simp [Text.Blankless, phrase])
  | _ => decide +kernel

/-- The version holds no space, the code has the size of three digits, the reason is trimmed. -/
@[mk_iff]
structure StatusLine.WireSafe (line : StatusLine) : Prop where
  version : isHttpVersion line.version ∧ ' ' ∉ line.version.toList ∧ OneLine line.version
  code : 100 ≤ line.status.code ∧ line.status.code < 1000
  reason : trim line.reason = line.reason ∧ OneLine line.reason

instance (line : StatusLine) : Decidable line.WireSafe := decidable_of_iff _ (StatusLine.wireSafe_iff line).symm

namespace StatusLine
variable {line : StatusLine}

theorem status?_decimal {code : Nat} (size : 100 ≤ code ∧ code < 1000) :
    status? (decimal code) = some (Status.ofCode code) := by
  rw [status?, Text.trim_of_blankless (Text.blankless_decimal code), Text.natural?_decimal]
  simp [size]

theorem WireSafe.trim_writtenReason (safe : line.WireSafe) : trim line.writtenReason = line.writtenReason := by
  unfold StatusLine.writtenReason
  split
  · exact line.status.trim_phrase
  · exact safe.reason.1

/-- A version and a reason that keep to their line make up one. -/
theorem oneLine_toText (version : OneLine line.version) (reason : OneLine line.reason) : OneLine line.toText := by
  have code := Text.oneLine_of_blankless (Text.blankless_decimal line.status.code)
  have written : OneLine line.writtenReason := by
    unfold StatusLine.writtenReason
    split
    · exact line.status.oneLine_phrase
    · exact reason
  exact Text.oneLine_append (Text.oneLine_append version code rfl (by decide) (by decide)) written rfl (by decide)
    (by decide)

/-- A status line is read back with the status of its code and the reason that was written. -/
theorem WireSafe.ofText_toText (safe : line.WireSafe) :
    ofText line.toText = .ok { line with status := .ofCode line.status.code, reason := line.writtenReason } := by
  have spaceless : ' ' ∉ (decimal line.status.code).toList := fun member =>
    Text.blankless_decimal _ ' ' member (by decide)
  have parts : line.toText = line.version ++ " " ++ (decimal line.status.code ++ " " ++ line.writtenReason) := by
    simp [toText, String.append_assoc]
  have inner : Text.cut? ' ' (decimal line.status.code ++ " " ++ line.writtenReason) = _ :=
    Text.cut?_append spaceless rfl line.writtenReason
  rw [parts, ofText, Text.cut?_append safe.version.2.1 rfl]
  simp [safe.version.1, inner, status?_decimal safe.code, safe.trim_writtenReason]

theorem ofCode_of_status? {text : String} {status : Status} (read : status? text = some status) :
    ∃ code, 100 ≤ code ∧ code < 1000 ∧ status = .ofCode code := by
  obtain ⟨code, found, rfl⟩ := Option.map_eq_some_iff.mp read
  have size := (Option.filter_eq_some_iff.mp found).2
  rw [decide_eq_true_eq] at size
  exact ⟨code, size.1, size.2, rfl⟩

/-- A status line that is read keeps to its line, and its status is the one of a code. -/
theorem wireSafe_of_ofText {text : String} (oneLine : OneLine text) (read : ofText text = .ok line) :
    line.WireSafe ∧ ∃ code, line.status = .ofCode code := by
  unfold ofText at read
  cases halves : Text.cut? ' ' text with
  | none => cases http : isHttpVersion text <;> simp [halves, http] at read
  | some parts =>
    obtain ⟨version, rest⟩ := parts
    obtain ⟨versionLine, restLine⟩ := oneLine.of_cut? halves
    have spaceless := (Text.cut?_eq_some_iff.mp halves).2
    simp only [halves, Option.elim_some] at read
    by_cases http : isHttpVersion version
    · simp only [http, Bool.not_true, Bool.false_eq_true, if_false] at read
      -- Without a second space the reason is empty.
      have reasonLine : OneLine ((Text.cut? ' ' rest).getD (rest, "")).2 := by
        cases more : Text.cut? ' ' rest with
        | none => exact Text.oneLine_of_blankless (by simp [Blankless])
        | some halves => exact (restLine.of_cut? more).2
      cases known : status? ((Text.cut? ' ' rest).getD (rest, "")).1 with
      | none => simp [known] at read
      | some status =>
        simp only [known, Except.ok.injEq] at read
        subst read
        obtain ⟨code, low, high, rfl⟩ := ofCode_of_status? known
        refine ⟨⟨⟨http, spaceless, versionLine⟩, ?_, Text.trim_trim _, reasonLine.trim⟩, code, rfl⟩
        rw [Status.code_ofCode]
        exact ⟨low, high⟩
    · simp [http] at read

theorem WireSafe.oneLine (safe : line.WireSafe) : OneLine line.toText :=
  oneLine_toText safe.version.2.2 safe.reason.2

end StatusLine
end HttpExchange
