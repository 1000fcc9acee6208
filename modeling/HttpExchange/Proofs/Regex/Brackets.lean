import HttpExchange.Proofs.Regex.Ending
import Mathlib.Data.List.TakeDrop
import Mathlib.Data.List.TakeWhile

/-!
Sets between square brackets, read with a closing bracket and a dollar sign behind the text. A set that ends within the
text is the same one.
-/
namespace HttpExchange.Regex
namespace Bracket
variable (flags : Flags)

/-- The marks in front of a set that stand for themselves. -/
def marks (negate : Bool) (cs : List Char) : Bool × Members × List Char :=
  match flags.takeWhere (· == '-') cs cs.length with
  | ([], ']' :: rest) => (negate, Members.none.add ⟨.ofChar ']', 0⟩, rest)
  | (hyphens, rest) => (negate, hyphens.foldl (fun m c => m.add ⟨.ofChar c, 0⟩) .none, rest)

theorem match_of_not_caret {α : Type} {c : Char} {rest : List Char} (plain : c ≠ '^') (f g : List Char → α) :
    (match c :: rest with
      | '^' :: rest => f rest
      | cs => g cs) = g (c :: rest) := by
  split
  · rename_i same
    cases same
    exact absurd rfl plain
  · rfl

theorem opening_eq (cs : List Char) : opening flags cs = match flags.skip cs with
    | '^' :: rest => marks flags true rest
    | cs => marks flags false cs := by
  unfold opening
  cases flags.skip cs with
  | nil => rfl
  | cons c rest =>
    by_cases caret : c = '^'
    · subst caret
      rfl
    · rw [match_of_not_caret caret (marks flags true) (marks flags false)]
      exact congrArg (fun opened : Bool × List Char => marks flags opened.1 opened.2)
        (match_of_not_caret caret (Prod.mk true) (Prod.mk false))

theorem marks_nil (negate : Bool) : (marks flags negate []).2.2 = [] := by
  rw [marks, flags.takeWhere_nil]

theorem marks_append {cs rest : List Char} {negate negate' : Bool} {start : Members}
    (read : marks flags negate cs = (negate', start, rest)) (some_ : rest ≠ []) :
    marks flags negate (cs ++ ending) = (negate', start, rest ++ ending) := by
  unfold marks at read ⊢
  cases took : flags.takeWhere (· == '-') cs cs.length with
  | mk signs behind =>
    rw [took] at read
    have more : behind ≠ [] := by
      rintro rfl
      cases signs <;> exact some_ (congrArg (·.2.2) read).symm
    rw [flags.takeWhere_length_append took more]
    obtain ⟨c, others, rfl⟩ := List.exists_cons_of_ne_nil more
    split at read
    · rename_i same
      cases same
      cases read
      rfl
    · rename_i bare same
      cases same
      cases read
      split
      · rename_i same
        cases same
        exact (bare _ rfl rfl).elim
      · rename_i same
        cases same
        rfl

theorem opening_append {cs rest : List Char} {negate : Bool} {start : Members}
    (opened : opening flags cs = (negate, start, rest)) (some_ : rest ≠ []) :
    opening flags (cs ++ ending) = (negate, start, rest ++ ending) := by
  rw [opening_eq] at opened ⊢
  cases next : flags.skip cs with
  | nil =>
    rw [next] at opened
    have none := marks_nil flags false
    rw [show marks flags false [] = (negate, start, rest) from opened] at none
    exact absurd none some_
  | cons c more =>
    have next' := flags.skip_append (next ▸ List.cons_ne_nil c more)
    rw [next] at next' opened
    rw [next']
    split at opened
    · rename_i same
      cases same
      exact marks_append flags opened some_
    · rename_i bare
      split
      · rename_i same
        cases same
        exact (bare _ rfl).elim
      · exact marks_append flags opened some_

theorem span_append {p : Char → Bool} {cs front back : List Char} {c : Char} (parted : cs.span p = (front, c :: back)) :
    (cs ++ ending).span p = (front, c :: (back ++ ending)) := by
  rw [List.span_eq_takeWhile_dropWhile, Prod.mk.injEq] at parted ⊢
  obtain ⟨rfl, behind⟩ := parted
  have ends : cs.dropWhile p ≠ [] := behind ▸ List.cons_ne_nil c back
  have length : (cs.takeWhile p).length ≠ cs.length := by
    have all : (cs.takeWhile p ++ cs.dropWhile p).length = cs.length := by rw [List.takeWhile_append_dropWhile]
    have some_ := List.length_pos_iff.mpr ends
    rw [List.length_append] at all
    omega
  refine ⟨by rw [List.takeWhile_append, if_neg length], ?_⟩
  rw [List.dropWhile_append, behind]
  rfl

/-- The name of a class, behind its colon and the mark that negates it. -/
def className? (negate : Bool) (cs : List Char) : Option (Bool × CharSet × List Char) :=
  match cs.span (· != ':') with
  | (name, ':' :: ']' :: after) => (CharSet.ofAsciiName? (.ofList name)).map fun s => (negate, s, after)
  | _ => none

theorem className?_append (negate : Bool) (cs : List Char) : className? negate (cs ++ ending) =
    (className? negate cs).map fun (negate, s, after) => (negate, s, after ++ ending) := by
  unfold className?
  cases parted : cs.span (· != ':') with
  | mk name behind =>
    cases behind with
    | nil =>
      have all : (cs ++ ending).span (· != ':') = (cs ++ ending, []) := by
        rw [List.span_eq_takeWhile_dropWhile, Prod.mk.injEq] at parted ⊢
        have members := List.dropWhile_eq_nil_iff.mp parted.2
        rw [List.takeWhile_append_of_pos members, List.dropWhile_append_of_pos members]
        exact ⟨congrArg (cs ++ ·) (by decide), by decide⟩
      rw [all]
      rfl
    | cons c more =>
      rw [span_append parted]
      cases more with
      | nil =>
        split
        · rename_i same
          cases same
        · split
          · rename_i same
            cases same
          · rfl
      | cons d after =>
        split
        · rename_i same
          cases same
          simp [Option.map_map, Function.comp_def]
        · rename_i bare
          split
          · rename_i same
            cases same
            exact (bare _ _ rfl).elim
          · rfl

theorem namedClass?_of_ne {c : Char} (other : c ≠ ':') (rest : List Char) : namedClass? (c :: rest) = none := by
  unfold namedClass?
  split
  · rename_i same
    cases same
    exact absurd rfl other
  · rfl

theorem namedClass?_of_plain {rest : List Char} (plain : rest.head? ≠ some '^') :
    namedClass? (':' :: rest) = className? false rest := by
  unfold namedClass?
  cases rest with
  | nil => rfl
  | cons d more =>
    have other : d ≠ '^' := fun same => plain (congrArg some same)
    have same : (match d :: more with
        | '^' :: more => (true, more)
        | _ => (false, d :: more)) = (false, d :: more) :=
      match_of_not_caret other (Prod.mk true) fun _ => (false, d :: more)
    exact congrArg (fun opened : Bool × List Char => className? opened.1 opened.2) same

theorem namedClass?_append (cs : List Char) : namedClass? (cs ++ ending) =
    (namedClass? cs).map fun (negate, s, after) => (negate, s, after ++ ending) := by
  cases cs with
  | nil => rfl
  | cons c rest =>
    rw [List.cons_append]
    by_cases colon : c = ':'
    · subst colon
      by_cases caret : rest.head? = some '^'
      · obtain ⟨more, rfl⟩ := List.head?_eq_some_iff.mp caret
        exact className?_append true more
      · have caret' : (rest ++ ending).head? ≠ some '^' := by
          cases rest with
          | nil => decide
          | cons d more => exact caret
        rw [namedClass?_of_plain caret, namedClass?_of_plain caret', className?_append]
    · rw [namedClass?_of_ne colon, namedClass?_of_ne colon]
      rfl

/-- A character that stands for itself must be one without Unicode too. -/
def proper? (a : Atom) (rest : List Char) : Option (Atom × List Char) :=
  match a with
  | .char c => if flags.unicode ∨ c.toNat < 128 then some (a, rest) else none
  | _ => some (a, rest)

theorem member?_eq (cs : List Char) : member? flags cs = (match cs with
    | '\\' :: rest => Atom.escaped? flags rest
    | c :: rest => some (.char c, rest)
    | [] => none).bind fun (a, rest) => proper? flags a rest := by
  cases cs with
  | nil => rfl
  | cons c rest =>
    by_cases backslash : c = '\\'
    · subst backslash
      rfl
    · unfold member?
      simp only
      rfl

theorem proper?_eq_some {a b : Atom} {behind rest : List Char} (read : proper? flags a behind = some (b, rest)) :
    a = b ∧ behind = rest ∧ ∀ other, proper? flags a other = some (b, other) := by
  unfold proper? at read ⊢
  split at read
  · split at read
    · rename_i proper
      cases read
      exact ⟨rfl, rfl, fun other => if_pos proper⟩
    · cases read
  · rename_i other
    cases read
    exact ⟨rfl, rfl, fun more => rfl⟩

theorem member?_append {cs rest : List Char} {a : Atom} (read : member? flags cs = some (a, rest)) :
    ∃ rest', member? flags (cs ++ ending) = some (a, rest') ∧ Follows rest rest' := by
  rw [member?_eq, Option.bind_eq_some_iff] at read
  obtain ⟨⟨b, behind⟩, found, proper⟩ := read
  obtain ⟨rfl, rfl, same⟩ := proper?_eq_some flags proper
  rw [member?_eq]
  split at found
  · rename_i inner
    obtain ⟨rest', found', follows⟩ := Atom.escaped?_append flags found
    refine ⟨rest', ?_, follows⟩
    simp [found', same]
  · rename_i plain
    cases found
    refine ⟨behind ++ ending, ?_, .append _⟩
    rw [List.cons_append]
    split
    · rename_i same
      cases same
      exact (plain rfl).elim
    · rename_i same'
      cases same'
      exact same _
    · rename_i same
      cases same
  · cases found

/-- The text from the next character on that is no white space, the first hash aside. -/
def nextMark (cs : List Char) : List Char :=
  match cs.dropWhile Text.isBlank with
  | '#' :: rest => rest.dropWhile Text.isBlank
  | rest => rest

theorem signAfter?_spaced (spaced : flags.spaced = true) (cs : List Char) :
    signAfter? flags cs = ((nextMark cs).head?.or cs.head?) := by
  rw [signAfter?, spaced]
  exact Option.orElse_eq_or

theorem nextMark_append {cs : List Char} (some_ : nextMark cs ≠ []) :
    nextMark (cs ++ ending) = nextMark cs ++ ending := by
  unfold nextMark at some_ ⊢
  split at some_
  · rename_i rest hash
    rw [dropWhile_append (hash ▸ List.cons_ne_nil _ _), hash]
    exact dropWhile_append some_
  · rename_i plain
    rw [dropWhile_append some_]
    obtain ⟨c, rest, same⟩ := List.exists_cons_of_ne_nil some_
    rw [same] at plain ⊢
    split
    · rename_i hash
      cases hash
      exact (plain _ rfl).elim
    · rfl

theorem skipSpace_of_blank {cs : List Char} (blank : ∀ c ∈ cs, Text.isBlank c) (inComment : Bool) :
    skipSpace inComment cs = [] := by
  induction cs generalizing inComment with
  | nil => rfl
  | cons c rest ih =>
    obtain ⟨first, others⟩ := List.forall_mem_cons.mp blank
    rw [skipSpace, if_pos first, ih others, ih others, ite_self]

theorem skipSpace_dropWhile (cs : List Char) : skipSpace false (cs.dropWhile Text.isBlank) = skipSpace false cs := by
  induction cs with
  | nil => rfl
  | cons c rest ih =>
    by_cases blank : Text.isBlank c
    · rw [List.dropWhile_cons_of_pos blank, ih, skipSpace.eq_def false (c :: rest)]
      simp [blank]
    · rw [List.dropWhile_cons_of_neg blank]

/-- Where no character is left that counts, the text goes on with white space, a hash or nothing. -/
theorem of_nextMark_nil {cs : List Char} (none : nextMark cs = []) :
    skipSpace false cs = [] ∧ ∀ c, cs.head? = some c → Text.isBlank c ∨ c = '#' := by
  have first : ∀ c, cs.head? = some c → Text.isBlank c ∨ cs.dropWhile Text.isBlank = cs := by
    intro c head
    obtain ⟨rest, rfl⟩ := List.head?_eq_some_iff.mp head
    by_cases blank : Text.isBlank c
    · exact .inl blank
    · exact .inr (List.dropWhile_cons_of_neg blank)
  rw [← skipSpace_dropWhile]
  unfold nextMark at none
  split at none
  · rename_i rest hash
    refine ⟨?_, fun c head => (first c head).imp_right fun same => ?_⟩
    · rw [hash]
      exact skipSpace_of_blank (List.dropWhile_eq_nil_iff.mp none) true
    · rw [same] at hash
      rw [hash] at head
      exact (Option.some.inj head).symm
  · rw [none]
    refine ⟨rfl, fun c head => (first c head).imp_right fun same => ?_⟩
    rw [none] at same
    rw [← same] at head
    cases head

/-- What a hyphen means does not depend on what is put behind the text, unless nothing follows that counts. -/
theorem signAfter?_append (cs : List Char) : signAfter? flags (cs ++ ending) = signAfter? flags cs ∨
    flags.skip cs = [] ∧ signAfter? flags cs ≠ some ']' ∧ signAfter? flags cs ≠ some '-' := by
  cases spaced : flags.spaced with
  | false =>
    have head : ∀ ds, signAfter? flags ds = ds.head? := fun ds => by rw [signAfter?, spaced]; rfl
    rw [head, head]
    cases cs with
    | nil => exact .inr ⟨flags.skip_nil, by simp⟩
    | cons c rest => exact .inl rfl
  | true =>
    rw [signAfter?_spaced flags spaced, signAfter?_spaced flags spaced]
    by_cases none : nextMark cs = []
    · obtain ⟨skipped, first⟩ := of_nextMark_nil none
      have skip : flags.skip cs = [] := by rw [Flags.skip, if_pos spaced, skipped]
      refine .inr ⟨skip, ?_⟩
      rw [none]
      constructor
      · intro head
        rcases first _ head with blank | hash
        · exact absurd blank (by decide)
        · exact absurd hash (by decide)
      · intro head
        rcases first _ head with blank | hash
        · exact absurd blank (by decide)
        · exact absurd hash (by decide)
    · obtain ⟨c, rest, same⟩ := List.exists_cons_of_ne_nil none
      rw [nextMark_append none, same]
      exact .inl rfl

/-- What stands by itself among the members of a set. -/
def alone? (a : Atom) (rest : List Char) : Option (CharSet × List Char) :=
  match a with
  | .char c => some (.ofChar c, rest)
  | .chars s => some (s, rest)
  | .place _ => none

theorem alone?_append {a : Atom} {behind rest : List Char} {s : CharSet} (read : alone? a behind = some (s, rest)) :
    alone? a (behind ++ ending) = some (s, rest ++ ending) := by
  cases a <;> cases read <;> rfl

theorem range?_append {cs rest : List Char} {s : CharSet} (read : range? flags cs = some (s, rest)) :
    ∃ rest', range? flags (cs ++ ending) = some (s, rest') ∧ Follows rest rest' := by
  unfold range? at read ⊢
  simp only [Option.bind_eq_bind, Option.bind_eq_some_iff, Prod.exists] at read ⊢
  obtain ⟨first, behind, found, others⟩ := read
  have next : flags.skip behind ≠ [] := by
    intro none
    rw [none] at others
    cases others
  have more : behind ≠ [] := by
    rintro rfl
    exact next flags.skip_nil
  obtain ⟨behind', found', follows⟩ := member?_append flags found
  obtain rfl := follows.eq_of_ne_nil more
  have next' := flags.skip_append next
  split at others
  · exact absurd ‹_› next
  · rename_i after hyphen
    rw [hyphen, List.cons_append] at next'
    split at others
    · rename_i sign
      have same : signAfter? flags (after ++ ending) = signAfter? flags after :=
        (signAfter?_append flags after).resolve_right fun ⟨_, bracket, dash⟩ => sign.elim bracket dash
      refine ⟨_, ⟨first, _, found', ?_⟩, .append _⟩
      rw [next']
      simp only [same, if_pos sign]
      exact alone?_append others
    · rename_i sign
      obtain ⟨⟨last, rest₁⟩, foundLast, span⟩ := Option.bind_eq_some_iff.mp others
      have some₁ : flags.skip after ≠ [] := by
        intro none
        rw [none] at foundLast
        cases foundLast
      have same : signAfter? flags (after ++ ending) = signAfter? flags after :=
        (signAfter?_append flags after).resolve_right fun ⟨nothing, _⟩ => some₁ nothing
      obtain ⟨rest₁', foundLast', follows₁⟩ := member?_append flags foundLast
      rw [← flags.skip_append some₁] at foundLast'
      split at span
      · rename_i a b last_
        obtain rfl : last = .char b := last_
        split at span
        · rename_i ordered
          cases span
          refine ⟨rest₁', ⟨_, _, found', ?_⟩, follows₁⟩
          rw [next']
          simp only [same, if_neg sign, foundLast', Option.bind_some, if_pos ordered]
        · cases span
      · cases span
  · rename_i bare
    obtain ⟨c, more, same⟩ := List.exists_cons_of_ne_nil next
    refine ⟨_, ⟨first, _, found', ?_⟩, .append _⟩
    rw [next', same]
    rw [same] at bare
    split
    · rename_i none
      cases none
    · rename_i hyphen
      cases hyphen
      exact (bare _ rfl).elim
    · exact alone?_append others

/-- The members so far, with the operation before them. -/
def combined (before : Option (Operation × Operand)) (found : Members) : Operand :=
  match before with
  | none => found.operand
  | some (operation, left) => operation.apply flags left found.operand

theorem members?_succ (depth fuel : Nat) (negate : Bool) (before : Option (Operation × Operand)) (found : Members)
    (cs : List Char) : members? flags (depth + 1) (fuel + 1) negate before found cs = (match flags.skip cs with
    | [] => none
    | ']' :: rest => do
      let set ← flags.negatedIf? negate (flags.fold (combined flags before found).set)
      return (⟨set, (combined flags before found).height + 1⟩, rest)
    | '&' :: '&' :: rest =>
      members? flags (depth + 1) fuel negate (some (.inter, combined flags before found)) .none rest
    | '-' :: '-' :: rest =>
      members? flags (depth + 1) fuel negate (some (.diff, combined flags before found)) .none rest
    | '~' :: '~' :: rest =>
      members? flags (depth + 1) fuel negate (some (.symmetricDiff, combined flags before found)) .none rest
    | '[' :: rest =>
      match namedClass? rest with
      | some (negated, s, rest) => do
        let s ← flags.negatedIf? negated (flags.fold s)
        members? flags (depth + 1) fuel negate before (found.add ⟨s, 0⟩) rest
      | none => do
        let (innerNegate, start, rest) := opening flags rest
        let (inner, rest) ← members? flags depth fuel innerNegate none start rest
        members? flags (depth + 1) fuel negate before (found.add inner) rest
    | cs => do
      let (s, rest) ← range? flags cs
      members? flags (depth + 1) fuel negate before (found.add ⟨s, 0⟩) rest) := by
  rcases before with _ | ⟨operation, left⟩ <;> rw [members?] <;> rfl

/-- A set goes on up to its closing bracket. -/
theorem ne_nil_of_members? {depth fuel : Nat} {negate : Bool} {before : Option (Operation × Operand)} {found : Members}
    {cs : List Char} {read : Operand × List Char}
    (reads : members? flags depth fuel negate before found cs = some read) :
    cs ≠ [] := by
  rintro rfl
  rcases depth with _ | depth
  · rw [members?] at reads
    cases reads
  rcases fuel with _ | fuel
  · rw [members?] at reads
    cases reads
  rw [members?_succ, flags.skip_nil] at reads
  cases reads

/-- A set that is read up to its closing bracket is read all the same. -/
theorem members?_append {depth fuel more : Nat} (enough : fuel ≤ more) {negate : Bool}
    {before : Option (Operation × Operand)}
    {found : Members} {cs rest : List Char} {whole : Operand}
    (read : members? flags depth fuel negate before found cs = some (whole, rest)) :
    members? flags depth more negate before found (cs ++ ending) = some (whole, rest ++ ending) := by
  induction depth generalizing fuel more negate before found cs rest whole with
  | zero =>
    rw [members?] at read
    cases read
  | succ depth ihDepth =>
    induction fuel generalizing more negate before found cs rest whole with
    | zero =>
      rw [members?] at read
      cases read
    | succ fuel ih =>
      obtain ⟨more, rfl⟩ := Nat.exists_eq_add_of_le' (Nat.le_trans (Nat.succ_pos fuel) enough)
      have fewer : fuel ≤ more := by omega
      rw [members?_succ] at read ⊢
      have next : flags.skip cs ≠ [] := by
        intro none
        rw [none] at read
        cases read
      rw [flags.skip_append next]
      generalize flags.skip cs = ds at read next
      split at read
      · cases read
      · obtain ⟨set, negated, same⟩ := Option.bind_eq_some_iff.mp read
        cases same
        simp [negated]
      · exact ih fewer read
      · exact ih fewer read
      · exact ih fewer read
      · rename_i behind
        simp only [List.cons_append]
        rw [namedClass?_append]
        cases named : namedClass? behind with
        | some class_ =>
          obtain ⟨negated, s, after⟩ := class_
          rw [named] at read
          obtain ⟨t, same, others⟩ := Option.bind_eq_some_iff.mp read
          simp [same, ih fewer others]
        | none =>
          rw [named] at read
          cases opened : opening flags behind with
          | mk innerNegate start =>
            obtain ⟨start, after⟩ := start
            rw [opened] at read
            obtain ⟨⟨inner, left⟩, inside, others⟩ := Option.bind_eq_some_iff.mp read
            simp [opening_append flags opened (ne_nil_of_members? flags inside), ihDepth fewer inside, ih fewer others]
      · rename_i bracket inter diff symmetric inner
        obtain ⟨⟨s, after⟩, ranged, others⟩ := Option.bind_eq_some_iff.mp read
        obtain ⟨after', ranged', follows⟩ := range?_append flags ranged
        obtain rfl := follows.eq_of_ne_nil (ne_nil_of_members? flags others)
        split
        · rename_i same
          exact absurd (List.append_eq_nil_iff.mp same).1 next
        · rename_i same
          obtain ⟨rest, same⟩ := exists_of_cons (by decide) same
          exact (bracket rest same).elim
        · rename_i same
          obtain ⟨rest, same⟩ := exists_of_cons_cons (by decide) (by decide) same
          exact (inter rest same).elim
        · rename_i same
          obtain ⟨rest, same⟩ := exists_of_cons_cons (by decide) (by decide) same
          exact (diff rest same).elim
        · rename_i same
          obtain ⟨rest, same⟩ := exists_of_cons_cons (by decide) (by decide) same
          exact (symmetric rest same).elim
        · rename_i same
          obtain ⟨rest, same⟩ := exists_of_cons (by decide) same
          exact (inner rest same).elim
        · simp [ranged', ih fewer others]

theorem set?_append {cs rest : List Char} {whole : Operand} (read : set? flags cs = some (whole, rest)) :
    set? flags (cs ++ ending) = some (whole, rest ++ ending) := by
  unfold set? at read ⊢
  cases opened : opening flags cs with
  | mk negate start =>
    obtain ⟨start, after⟩ := start
    rw [opened] at read
    rw [opening_append flags opened (ne_nil_of_members? flags read)]
    exact members?_append flags (by simp) read

end Bracket
end HttpExchange.Regex
