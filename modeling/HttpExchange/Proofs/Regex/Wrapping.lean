import HttpExchange.Proofs.Regex.Brackets

/-!
Patterns read between a caret with an opening bracket and a closing bracket with a dollar sign. If the text by itself is
a pattern and so is the text with these around it, then the latter is the former between the two places.
-/
namespace HttpExchange.Regex
namespace Reading
variable (flags : Flags)

/-! ### Numbers, settings and names -/

theorem count?_append {cs rest : List Char} {n : Nat} (read : count? flags cs = some (n, rest)) (some_ : rest ≠ []) :
    count? flags (cs ++ ending) = some (n, rest ++ ending) := by
  unfold count? at read ⊢
  have next : cs.dropWhile Text.isBlank ≠ [] := by
    intro none
    rw [none] at read
    cases read
  rw [dropWhile_append next]
  obtain ⟨c, more, same⟩ := List.exists_cons_of_ne_nil next
  rw [same] at read ⊢
  simp only [List.cons_append] at read ⊢
  split at read
  · rename_i digit
    rw [if_pos digit]
    cases took : flags.takeWhere Char.isDigit (c :: more) (c :: more).length with
    | mk digits behind =>
      rw [took] at read
      obtain ⟨value, numbered, same⟩ := Option.map_eq_some_iff.mp read
      cases same
      have after : behind.dropWhile Text.isBlank ≠ [] := by
        intro none
        rw [none] at some_
        exact some_ flags.skip_nil
      have left : behind ≠ [] := by
        rintro rfl
        exact after rfl
      have took' := flags.takeWhere_length_append took left
      rw [List.cons_append] at took'
      rw [took']
      simp only [numbered, Option.map_some, dropWhile_append after, flags.skip_append some_]
  · cases read

theorem bounds?_append {cs rest : List Char} {least : Nat} {most : Option Nat}
    (read : bounds? flags cs = some (least, most, rest)) :
    bounds? flags (cs ++ ending) = some (least, most, rest ++ ending) := by
  have nil : count? flags [] = none := rfl
  unfold bounds? at read ⊢
  obtain ⟨⟨n, behind⟩, counted, others⟩ := Option.bind_eq_some_iff.mp read
  have next : flags.skip cs ≠ [] := by
    intro none
    rw [none] at counted
    cases counted
  have left : behind ≠ [] := by
    rintro rfl
    cases others
  rw [flags.skip_append next, count?_append flags counted left]
  simp only [Option.bind_eq_bind, Option.bind_some] at others ⊢
  split at others
  · cases others
    rfl
  · rename_i after
    simp only [List.cons_append]
    have more : flags.skip after ≠ [] := by
      intro none
      rw [none] at others
      cases others
    rw [flags.skip_append more]
    split at others
    · rename_i same
      cases others
      rw [same]
      rfl
    · rename_i bare
      obtain ⟨⟨m, final⟩, counted', ends⟩ := Option.bind_eq_some_iff.mp others
      have some_ : final ≠ [] := by
        rintro rfl
        cases ends
      split
      · rename_i same
        obtain ⟨rest, same⟩ := exists_of_cons (by decide) same
        exact (bare rest same).elim
      · rw [count?_append flags counted' some_]
        dsimp only at ends
        split at ends
        · split at ends
          · rename_i ordered
            cases ends
            simp [ordered]
          · cases ends
        · cases ends
  · cases others

theorem flags?_append {seen : List Char} {on any : Bool} {flags settled : Flags} {cs rest : List Char}
    (read : flags? seen on flags cs = some (settled, any, rest)) :
    flags? seen on flags (cs ++ ending) = some (settled, any, rest ++ ending) ∧ rest ≠ [] := by
  induction cs generalizing seen on flags with
  | nil => cases read
  | cons c behind ih =>
    rw [List.cons_append]
    unfold flags? at read ⊢
    split at read
    · rename_i mark
      rw [if_pos mark]
      split at read
      · cases read
      · rename_i last
        cases read
        exact ⟨if_neg last, List.cons_ne_nil _ _⟩
    · rename_i mark
      rw [if_neg mark]
      split at read
      · cases read
      · rename_i fresh
        rw [if_neg fresh]
        split at read
        · rename_i hyphen
          rw [if_pos hyphen]
          exact ih read
        · rename_i hyphen
          rw [if_neg hyphen]
          split at read
          · cases read
          · exact ih read

theorem name?_append {cs name rest : List Char} (read : name? cs = some (name, rest)) :
    name? (cs ++ ending) = some (name, rest ++ ending) := by
  unfold name? at read ⊢
  split at read
  · rename_i parted
    rw [Bracket.span_append parted]
    split at read
    · rename_i proper
      cases read
      exact if_pos proper
    · cases read
  · cases read

/-! ### Groups -/

/-- A reading within a group around it, with another rest of the text. -/
def enclosed (around : OpenGroup) (r : Reading) (rest : List Char) : Reading :=
  { r with rest, stack := r.stack ++ [around] }

/-- A reading goes on within a group around it, with the ending behind its text. -/
def Encloses (around : OpenGroup) (r r' : Reading) : Prop := ∃ rest, Follows r.rest rest ∧ r' = r.enclosed around rest

variable {around : OpenGroup} {r r₁ r₁' : Reading} {left rest rest' : List Char}

theorem encloses_add? {p : Pattern} {height : Nat} (added : r.add? p height rest = some r₁)
    (added' : (r.enclosed around left).add? p height rest' = some r₁') (follows : Follows rest rest') :
    Encloses around r₁ r₁' := by
  simp only [add?, Option.ite_none_left_eq_some, Option.some.injEq] at added added'
  obtain ⟨-, rfl⟩ := added
  obtain ⟨-, rfl⟩ := added'
  exact ⟨rest', follows, rfl⟩

theorem encloses_loop? {least : Nat} {most : Option Nat} {lazily : Bool}
    (looped : r.loop? least most lazily rest = some r₁)
    (looped' : (r.enclosed around left).loop? least most lazily rest' = some r₁') (follows : Follows rest rest') :
    Encloses around r₁ r₁' := by
  unfold loop? at looped looped'
  split at looped
  · rename_i p height before items
    simp only [enclosed, items] at looped'
    exact encloses_add? looped looped' follows
  · cases looped

theorem encloses_openGroup? {index : Option Nat} {flags : Flags} (opened : r.openGroup? index flags rest = some r₁)
    (opened' : (r.enclosed around left).openGroup? index flags rest' = some r₁') (follows : Follows rest rest') :
    Encloses around r₁ r₁' := by
  simp only [openGroup?, Option.ite_none_left_eq_some, Option.some.injEq] at opened opened'
  obtain ⟨-, rfl⟩ := opened
  obtain ⟨-, rfl⟩ := opened'
  exact ⟨rest', follows, rfl⟩

theorem encloses_openNamed? {cs : List Char} (opened : r.openNamed? cs = some r₁)
    (opened' : (r.enclosed around left).openNamed? (cs ++ ending) = some r₁') : Encloses around r₁ r₁' := by
  unfold openNamed? at opened opened'
  obtain ⟨⟨name, behind⟩, named, others⟩ := Option.bind_eq_some_iff.mp opened
  rw [name?_append named] at opened'
  simp only [Option.bind_eq_bind, Option.bind_some] at others opened'
  split at others
  · cases others
  · rename_i fresh
    have fresh' : ¬ (r.enclosed around left).names.contains name = true := fresh
    rw [if_neg fresh'] at opened'
    exact encloses_openGroup? others opened' (.append _)

/-- What follows on settings: a group under them after a colon, or else the bracket that ends them. -/
def settle? (r : Reading) (settled : Flags) (any : Bool) (cs : List Char) : Option Reading :=
  match cs with
  | ':' :: rest => r.openGroup? none settled rest
  | _ => if any then some { r with rest := cs.drop 1, flags := settled, items := ⟨none, 0⟩ :: r.items } else none

theorem encloses_settle? {settled : Flags} {any : Bool} {cs : List Char} (some_ : cs ≠ [])
    (set : r.settle? settled any cs = some r₁)
    (set' : (r.enclosed around left).settle? settled any (cs ++ ending) = some r₁') : Encloses around r₁ r₁' := by
  unfold settle? at set set'
  split at set
  · exact encloses_openGroup? set set' (.append _)
  · rename_i colon
    split at set'
    · rename_i same
      obtain ⟨_, rfl⟩ := exists_of_cons (by decide) same
      exact (colon _ rfl).elim
    · split at set
      · rename_i given
        rw [if_pos given] at set'
        cases set
        cases set'
        obtain ⟨c, after, rfl⟩ := List.exists_cons_of_ne_nil some_
        exact ⟨_, .append _, rfl⟩
      · cases set

theorem encloses_opening? {cs : List Char} (opened : r.opening? cs = some r₁)
    (opened' : (r.enclosed around left).opening? (cs ++ ending) = some r₁') : Encloses around r₁ r₁' := by
  unfold opening? at opened opened'
  rw [show (r.enclosed around left).flags = r.flags from rfl] at opened'
  have follows := r.flags.follows_skip cs
  generalize r.flags.skip cs = ds at opened follows
  generalize r.flags.skip (cs ++ ending) = ds' at opened' follows
  split at opened
  · cases opened
  · cases opened
  · cases opened
  · cases opened
  · obtain rfl := follows.eq_of_cons
    exact encloses_openNamed? opened opened'
  · rename_i rest equal exclaims
    obtain rfl := follows.eq_of_cons
    have named : (r.enclosed around left).openNamed? (rest ++ ending) = some r₁' := by
      split at opened'
      · cases opened'
      · cases opened'
      · cases opened'
      · cases opened'
      · rename_i same
        cases same
      · rename_i same
        cases same
        exact opened'
      · rename_i angled same
        cases same
        exact (angled _ rfl).elim
      · rename_i asks
        exact (asks _ rfl).elim
    exact encloses_openNamed? opened named
  · rename_i rest equal exclaims angledEqual angledExclaims named angled
    obtain rfl := follows.eq_of_cons
    obtain ⟨⟨settled, any, more⟩, read, others⟩ := Option.bind_eq_some_iff.mp opened
    obtain ⟨read', some_⟩ := flags?_append read
    split at opened'
    · cases opened'
    · cases opened'
    · cases opened'
    · cases opened'
    · rename_i same
      obtain ⟨_, rfl⟩ := exists_of_cons_cons (by decide) (by decide) (List.cons.inj same).2
      exact (named _ rfl).elim
    · rename_i same
      obtain ⟨_, rfl⟩ := exists_of_cons (by decide) (List.cons.inj same).2
      exact (angled _ rfl).elim
    · rename_i same
      cases same
      rw [read'] at opened'
      exact encloses_settle? some_ others opened'
    · rename_i asks
      exact (asks _ rfl).elim
  · rename_i asks
    have asks' : ∀ rest, ds' ≠ '?' :: rest := by
      rintro rest rfl
      rcases follows with same | ⟨-, none⟩
      · obtain ⟨_, rfl⟩ := exists_of_cons (by decide) same.symm
        exact asks _ rfl
      · cases none
    have plain : (r.enclosed around left).openGroup? (some (r.groups + 1)) r.flags ds' = some r₁' := by
      split at opened'
      all_goals first
        | exact (asks' _ rfl).elim
        | exact opened'
    exact encloses_openGroup? opened plain follows

theorem encloses_closing? (closed : r.closing? rest = some r₁)
    (closed' : (r.enclosed around left).closing? rest' = some r₁') (follows : Follows rest rest') :
    Encloses around r₁ r₁' := by
  unfold closing? at closed closed'
  split at closed
  · cases closed
  · rename_i g stack same
    simp only [enclosed, same, List.cons_append] at closed'
    exact encloses_add? closed closed' follows

/-! ### Elements -/

/-- A loop of the last element, which is a lazy one before a question mark. -/
def lazily? (r : Reading) (least : Nat) (most : Option Nat) (cs : List Char) : Option Reading :=
  match cs with
  | '?' :: rest => r.loop? least most true rest
  | rest => r.loop? least most false rest

theorem lazily?_eq (r : Reading) (least : Nat) (most : Option Nat) (cs : List Char) :
    r.lazily? least most cs = match cs with
      | '?' :: rest => r.loop? least most true rest
      | _ => r.loop? least most false cs := by
  unfold lazily?
  split <;> rfl

theorem encloses_lazily? {least : Nat} {most : Option Nat} (follows : Follows rest rest')
    (looped : r.lazily? least most rest = some r₁)
    (looped' : (r.enclosed around left).lazily? least most rest' = some r₁') :
    Encloses around r₁ r₁' := by
  unfold lazily? at looped looped'
  split at looped
  · obtain rfl := follows.eq_of_cons
    exact encloses_loop? looped looped' (.append _)
  · rename_i asks
    split at looped'
    · rcases follows with same | ⟨-, none⟩
      · obtain ⟨_, rfl⟩ := exists_of_cons (by decide) same.symm
        exact (asks _ rfl).elim
      · cases none
    · exact encloses_loop? looped looped' follows

/-- An element that is read in both is read the same way. -/
theorem encloses_step? {c : Char} (stepped : r.step? c rest = some r₁)
    (stepped' : (r.enclosed around left).step? c (rest ++ ending) = some r₁') : Encloses around r₁ r₁' := by
  unfold step? at stepped stepped'
  dsimp only at stepped stepped'
  rw [show (r.enclosed around left).flags = r.flags from rfl] at stepped'
  split at stepped
  · exact encloses_opening? stepped stepped'
  · exact encloses_closing? stepped stepped' (.append _)
  · have items : (r.enclosed around left).items = r.items := rfl
    simp only [items, Option.ite_none_left_eq_some, Option.some.injEq] at stepped stepped'
    obtain ⟨-, rfl⟩ := stepped
    obtain ⟨-, rfl⟩ := stepped'
    exact ⟨_, .append _, rfl⟩
  · obtain ⟨⟨set, behind⟩, read, added⟩ := Option.bind_eq_some_iff.mp stepped
    simp only [Bracket.set?_append r.flags read, Option.bind_eq_bind, Option.bind_some] at stepped'
    exact encloses_add? added stepped' (.append _)
  · exact encloses_lazily? (.append _) ((lazily?_eq ..).trans stepped) ((lazily?_eq ..).trans stepped')
  · exact encloses_lazily? (.append _) ((lazily?_eq ..).trans stepped) ((lazily?_eq ..).trans stepped')
  · exact encloses_lazily? (.append _) ((lazily?_eq ..).trans stepped) ((lazily?_eq ..).trans stepped')
  · obtain ⟨⟨least, most, behind⟩, read, looped⟩ := Option.bind_eq_some_iff.mp stepped
    simp only [bounds?_append r.flags read, Option.bind_eq_bind, Option.bind_some] at stepped'
    exact encloses_lazily? (r.flags.follows_skip behind) looped stepped'
  · obtain ⟨⟨atom, behind⟩, read, added⟩ := Option.bind_eq_some_iff.mp stepped
    obtain ⟨behind', read', follows⟩ := Atom.escaped?_append r.flags read
    simp only [read', Option.bind_eq_bind, Option.bind_some] at stepped'
    exact encloses_add? added stepped' follows
  · obtain ⟨set, dotted, added⟩ := Option.bind_eq_some_iff.mp stepped
    simp only [dotted, Option.bind_eq_bind, Option.bind_some] at stepped'
    exact encloses_add? added stepped' (.append _)
  · exact encloses_add? stepped stepped' (.append _)
  · exact encloses_add? stepped stepped' (.append _)
  · split at stepped'
    all_goals first
      | exact absurd rfl (by assumption)
      | exact encloses_add? stepped stepped' (.append _)

/-! ### The whole text -/

/-- The group around a pattern, behind the place at its start. -/
def wrapper (flags : Flags) : OpenGroup := ⟨none, flags, [], [⟨some (.look (caret flags)), 0⟩]⟩

/-- Behind the closing bracket only the place at the end is left to read. -/
theorem pattern_of_closing? {flags : Flags} {fuel : Nat} {r r' : Reading} {tree : Tree} (outermost : r.stack = [])
    (closed : (r.enclosed (wrapper flags) left).closing? ['$'] = some r') (read : run? fuel r' = some tree) :
    tree.pattern = .ofSequence [.look (caret flags), r.whole.pattern, .look (dollar flags)] := by
  have dollarSign : flags.skip ['$'] = ['$'] := by
    unfold Flags.skip
    split <;> rfl
  simp only [closing?, enclosed, outermost, List.nil_append, add?, wrapper, Option.ite_none_left_eq_some,
    Option.some.injEq] at closed
  obtain ⟨-, rfl⟩ := closed
  rcases fuel with _ | fuel
  · cases read
  unfold run? at read
  simp only [dollarSign] at read
  have ends : ∀ r : Reading, r.step? '$' [] =
      some { r with rest := [], items := ⟨some (.look (dollar r.flags)), 0⟩ :: r.items } := fun r => rfl
  rw [ends] at read
  rcases fuel with _ | fuel
  · cases read
  unfold run? at read
  simp only [flags.skip_nil] at read
  cases read
  rfl

/-- What is read by itself and within the wrapper is read as the same pattern between the two places. -/
theorem pattern_of_run? {flags : Flags} {fuel fuel' : Nat} {r r' : Reading} {tree tree' : Tree}
    (encloses : Encloses (wrapper flags) r r') (read : run? fuel r = some tree) (read' : run? fuel' r' = some tree') :
    tree'.pattern = .ofSequence [.look (caret flags), tree.pattern, .look (dollar flags)] := by
  induction fuel generalizing fuel' r r' with
  | zero => cases read
  | succ fuel ih =>
    rcases fuel' with _ | fuel'
    · cases read'
    obtain ⟨rest, follows, rfl⟩ := encloses
    unfold run? at read read'
    rw [show (r.enclosed (wrapper flags) rest).flags = r.flags from rfl] at read'
    -- Where no text is left, the wrapper is still open.
    have closes : r.flags.skip rest ≠ [] := by
      intro none
      rw [show (r.enclosed (wrapper flags) rest).rest = rest from rfl, none] at read'
      simp [enclosed] at read'
    have whole : rest = r.rest ++ ending := by
      rcases follows with same | ⟨-, rfl⟩
      · exact same
      · exact absurd r.flags.skip_nil closes
    subst whole
    rw [show (r.enclosed (wrapper flags) (r.rest ++ ending)).rest = r.rest ++ ending from rfl] at read'
    cases next : r.flags.skip r.rest with
    | nil =>
      rw [next] at read
      have skipped : r.flags.skip (r.rest ++ ending) = ')' :: ['$'] := by
        have follows := r.flags.follows_skip r.rest
        rw [next] at follows
        exact follows.resolve_right fun ⟨_, left⟩ => closes left
      rw [skipped] at read'
      dsimp only at read read'
      split at read
      · rename_i empty
        cases read
        split at read'
        · rename_i closed
          exact pattern_of_closing? (List.isEmpty_iff.mp empty) closed read'
        · cases read'
      · cases read
    | cons c behind =>
      have next' := r.flags.skip_append (next ▸ List.cons_ne_nil c behind)
      rw [next, List.cons_append] at next'
      rw [next] at read
      rw [next'] at read'
      dsimp only at read read'
      split at read
      · rename_i stepped
        split at read'
        · rename_i stepped'
          exact ih (encloses_step? stepped stepped') read read'
        · cases read'
      · cases read

theorem skip_of_mark {c : Char} (flags : Flags) (blank : Text.isBlank c = false) (hash : c ≠ '#') (rest : List Char) :
    flags.skip (c :: rest) = c :: rest := by
  unfold Flags.skip
  split
  · rw [skipSpace]
    simp [blank, hash]
  · rfl

/-- The marks in front of the text open the wrapper. -/
theorem exists_run?_wrapped {flags : Flags} {fuel : Nat} {cs : List Char} {tree : Tree}
    (read : run? fuel ⟨'^' :: '(' :: '?' :: ':' :: cs, flags, 0, [], [], [], []⟩ = some tree) :
    ∃ fuel', run? fuel' ⟨cs, flags, 0, [], [], [], [wrapper flags]⟩ = some tree := by
  rcases fuel with _ | fuel
  · cases read
  unfold run? at read
  dsimp only at read
  rw [skip_of_mark flags (by decide) (by decide)] at read
  have begins : ∀ (r : Reading) (rest : List Char), r.step? '^' rest =
      some { r with rest, items := ⟨some (.look (caret r.flags)), 0⟩ :: r.items } := fun r rest => rfl
  simp only [begins] at read
  rcases fuel with _ | fuel
  · cases read
  unfold run? at read
  dsimp only at read
  rw [skip_of_mark flags (by decide) (by decide)] at read
  have opens : ∀ rest : List Char, (⟨'(' :: '?' :: ':' :: cs, flags, 0, [], [], [⟨some (.look (caret flags)), 0⟩], []⟩ :
      Reading).step? '(' ('?' :: ':' :: rest) = some ⟨rest, flags, 0, [], [], [], [wrapper flags]⟩ := by
    intro rest
    change opening? _ _ = _
    unfold opening?
    rw [skip_of_mark flags (by decide) (by decide)]
    rfl
  simp only [opens] at read
  exact ⟨fuel, read⟩

end Reading

/-- A text that is a pattern by itself stays that pattern between a place at the start and one at the end, if it can be
read there at all. -/
theorem Pattern.eq_of_ofText?_wrapped {flags : Flags} {text : String} {p whole : Pattern}
    (read : ofText? flags text = some p)
    (read' : ofText? flags ("^(?:" ++ text ++ ")$") = some whole) :
    whole = ofSequence [look (Reading.caret flags), p, look (Reading.dollar flags)] := by
  unfold ofText? at read read'
  dsimp only at read read'
  have wrapped : ("^(?:" ++ text ++ ")$").toList = '^' :: '(' :: '?' :: ':' :: (text.toList ++ ending) := by
    rw [String.toList_append, String.toList_append]
    rfl
  rw [wrapped] at read'
  split at read
  · rename_i tree ran
    split at read'
    · rename_i tree' ran'
      split at read
      · cases read
      · cases read
        split at read'
        · cases read'
        · cases read'
          obtain ⟨fuel, run⟩ := Reading.exists_run?_wrapped ran'
          exact Reading.pattern_of_run? ⟨_, .append _, rfl⟩ ran run
    · cases read'
  · cases read

end HttpExchange.Regex
