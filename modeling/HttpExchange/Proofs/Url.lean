import HttpExchange.Url
import Mathlib

/-!
URLs of the web that are read from text have a host, and have a port just if the text gives one that the scheme
does not imply.
-/
namespace HttpExchange.Url

/-- The text of a URL as far as it counts. -/
def significant (text : String) : List Char :=
  (Text.trimWhere (·.toNat ≤ 32) text.toList).filter fun c => c != '\t' && c != '\n' && c != '\r'

/-- The port that the text of a URL of the web gives after its host, be it the one that the scheme implies. -/
def writtenPort? (text : String) : Option Nat :=
  match scheme? (significant text) with
  | none => none
  | some (_, rest) =>
    let isSlash (c : Char) : Bool := c == '/' || c == '\\'
    let authority := ((splitTail rest).1.dropWhile isSlash).takeWhile (!endsAuthority true ·)
    let hostAndPort := ((splitCredentials authority).map Prod.snd).getD authority
    Text.radix? 10 ((splitHost false hostAndPort).2.drop 1)

/-- Host and port behind credentials that were read. -/
def located (scheme credentials : String) (cs : List Char) :
    Except UrlFault (String × Option Host × Option Nat × List Char) := do
  let special := isSpecial scheme
  let (hostText, afterHost) := splitHost false cs
  if hostText.isEmpty ∧ (special ∨ !afterHost.isEmpty ∨ !credentials.isEmpty) then throw .emptyHost
  let host ← if hostText.isEmpty then pure none
    else some <$> (if special then Host.ofText hostText else Host.opaqueOfText hostText)
  let (port, left) ← portOfText scheme (afterHost.drop 1)
  return (credentials, host, port, left)

theorem exists_of_bind_ok {ε α β : Type} {x : Except ε α} {f : α → Except ε β} {b : β} (ok : x >>= f = .ok b) :
    ∃ a, x = .ok a ∧ f a = .ok b := by
  cases x with
  | error => cases ok
  | ok a => exact ⟨a, rfl, ok⟩

section Splitting
variable {cs before after : List Char}

theorem splitHost_append (inBrackets : Bool) (cs : List Char) :
    (splitHost inBrackets cs).1 ++ (splitHost inBrackets cs).2 = cs := by
  induction cs generalizing inBrackets with
  | nil => rfl
  | cons c rest ih =>
    rw [splitHost]
    split_ifs
    · rfl
    · exact congrArg (c :: ·) (ih _)
    · exact congrArg (c :: ·) (ih _)
    · exact congrArg (c :: ·) (ih _)

theorem subset_of_splitCredentials (split : splitCredentials cs = some (before, after)) : after ⊆ cs := by
  unfold splitCredentials at split
  simp only at split
  split_ifs at split
  cases split
  intro c member
  rw [List.mem_reverse] at member
  exact List.mem_reverse.mp ((List.takeWhile_sublist _).subset member)

end Splitting

section
variable {scheme credentials : String} {cs : List Char} {host : Option Host} {port : Option Nat} {left : List Char}

theorem isSpecial_of_web (web : scheme = "http" ∨ scheme = "https") : isSpecial scheme = true := by
  rcases web with rfl | rfl
  · rfl
  · rfl

theorem authority_eq (scheme : String) (cs : List Char) (bounded : Bool) :
    authority scheme cs bounded = match splitCredentials cs with
      | none => located scheme "" cs
      | some ([], []) => if bounded then .error .emptyHost else located scheme "" []
      | some (before, after) => located scheme (credentialsText before) after := by
  unfold authority
  rcases splitCredentials cs with _ | ⟨_ | ⟨c, before⟩, _ | ⟨d, after⟩⟩
  · rfl
  · cases bounded <;> rfl
  · rfl
  · rfl
  · rfl

theorem portOfText_ok (plain : '\\' ∉ cs) (read : portOfText scheme cs = .ok (port, left)) (p : Nat) :
    port = some p ↔ Text.radix? 10 cs = some p ∧ defaultPort? scheme ≠ some p := by
  have whole : cs.span (· != '\\') = (cs, []) := by
    rw [List.span_eq_takeWhile_dropWhile, List.takeWhile_eq_self_iff.mpr, List.dropWhile_eq_nil_iff.mpr]
    · exact fun c member => bne_iff_ne.mpr (ne_of_mem_of_not_mem member plain)
    · exact fun c member => bne_iff_ne.mpr (ne_of_mem_of_not_mem member plain)
  unfold portOfText at read
  rw [whole] at read
  cases cs with
  | nil =>
    cases read
    simp [Text.radix?]
  | cons c rest =>
    cases number : Text.radix? 10 (c :: rest) with
    | none =>
      simp only [number] at read
      cases read
    | some n =>
      simp only [number] at read
      split_ifs at read with large implied
      · cases read
        simp +contextual [implied]
      · cases read
        grind

theorem located_ok (special : isSpecial scheme = true) {given : String} (plain : '\\' ∉ cs)
    (read : located scheme credentials cs = .ok (given, host, port, left)) :
    host.isSome ∧
      ∀ p, port = some p ↔ Text.radix? 10 ((splitHost false cs).2.drop 1) = some p ∧ defaultPort? scheme ≠ some p := by
  unfold located at read
  simp only [special, true_or, and_true] at read
  split_ifs at read with empty
  · cases read
  · obtain ⟨found, placed, read⟩ := exists_of_bind_ok read
    obtain ⟨⟨number, behind⟩, numbered, read⟩ := exists_of_bind_ok read
    cases read
    constructor
    · cases named : Host.ofText (splitHost false cs).1 with
      | error fault =>
        rw [named] at placed
        cases placed
      | ok h =>
        rw [named] at placed
        cases placed
        rfl
    · refine portOfText_ok (fun member => plain ?_) numbered
      rw [← splitHost_append false cs]
      exact List.mem_append_right _ (List.mem_of_mem_drop member)

theorem authority_ok (special : isSpecial scheme = true) {bounded : Bool} (plain : '\\' ∉ cs)
    (read : authority scheme cs bounded = .ok (credentials, host, port, left)) :
    host.isSome ∧ ∀ p, port = some p ↔
      Text.radix? 10 ((splitHost false (((splitCredentials cs).map Prod.snd).getD cs)).2.drop 1) = some p ∧
        defaultPort? scheme ≠ some p := by
  rw [authority_eq] at read
  cases split : splitCredentials cs with
  | none =>
    simp only [split] at read
    exact located_ok special plain read
  | some parts =>
    obtain ⟨before, after⟩ := parts
    have afterPlain : '\\' ∉ after := fun member => plain (subset_of_splitCredentials split member)
    rw [split] at read
    split at read
    · contradiction
    · rename_i emptied
      cases emptied
      split_ifs at read
      exact located_ok special afterPlain read
    · rename_i parted
      cases parted
      exact located_ok special afterPlain read

theorem body_ok (web : scheme = "http" ∨ scheme = "https") {hasTail hasAuthority : Bool} {path : String}
    (read : body scheme cs hasTail = .ok (hasAuthority, credentials, host, port, path)) :
    ∃ bounded left,
      authority scheme ((cs.dropWhile fun c => c == '/' || c == '\\').takeWhile (!endsAuthority true ·)) bounded =
        .ok (credentials, host, port, left) := by
  have special := isSpecial_of_web web
  have distant : scheme ≠ "file" := by
    rcases web with rfl | rfl
    · decide
    · decide
  unfold body at read
  simp only [special, if_neg distant, List.span_eq_takeWhile_dropWhile, Bool.true_and, if_true] at read
  obtain ⟨⟨given, found, number, left⟩, placed, read⟩ := exists_of_bind_ok read
  cases read
  exact ⟨_, left, placed⟩

/-- A URL of the web has a host, and a port if its text gives one other than its scheme implies. -/
theorem ofText_ok {text : String} {u : Url} (read : ofText text = .ok u) (web : u.scheme = "http" ∨ u.scheme = "https") :
    u.host.isSome ∧ ∀ p, u.port = some p ↔ writtenPort? text = some p ∧ defaultPort? u.scheme ≠ some p := by
  unfold ofText at read
  simp only at read
  cases parts : scheme? (significant text) with
  | none =>
    rw [significant] at parts
    simp only [parts] at read
    cases read
  | some found =>
    obtain ⟨scheme, rest⟩ := found
    rw [writtenPort?, parts]
    rw [significant] at parts
    simp only [parts] at read
    obtain ⟨⟨hasAuthority, credentials, host, port, path⟩, followed, read⟩ := exists_of_bind_ok read
    cases read
    obtain ⟨bounded, left, placed⟩ := body_ok web followed
    refine authority_ok (isSpecial_of_web web) (fun member => ?_) placed
    have ends := List.mem_takeWhile_imp member
    revert ends
    decide

end

/-- The text gives a port that the URL has not. -/
example : writtenPort? " HTTP://me:pw@[::1]:0080/a:1" = some 80 := by decide +kernel

end HttpExchange.Url
