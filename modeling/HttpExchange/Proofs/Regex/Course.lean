import HttpExchange.Proofs.Regex.Branches

/-!
What the piece of a pattern takes is what the pattern matches.
-/
namespace HttpExchange.Regex
variable {content : Array Char} {p q : Point}

namespace Pattern

/-- Whoever stands between two characters goes on by a match, to stand between two characters again. -/
def Takes (content : Array Char) (a : Pattern) (p q : Point) : Prop :=
  p.taken = 0 → q.taken = 0 ∧ a.Matches content ⟨p.place, p.slots⟩ ⟨q.place, q.slots⟩

theorem takes_sequence {parts : List Pattern} (along : Along (parts.map (Takes content)) p q) :
    Takes content (sequence parts) p q := by
  induction parts generalizing p with
  | nil =>
    cases along
    exact fun between => ⟨between, .none _⟩
  | cons a rest ih =>
    cases along with
    | cons first others =>
      intro between
      obtain ⟨further, front⟩ := first between
      obtain ⟨ends, back⟩ := ih others further
      exact ⟨ends, .next front back⟩

/-- Octets of a text in turn are the text. -/
theorem takes_text {cs : List Char} (reads : Reads content p (cs.flatMap fun c => Octets.ofNumber c.toNat) q) :
    Takes content (text cs) p q := by
  intro between
  obtain ⟨stands, rfl⟩ := reads.chars between
  exact ⟨rfl, .text stands⟩

theorem reads_of_along {octets : List Nat}
    (along : Along (octets.map fun octet p q => Reads content p [octet] q) p q) : Reads content p octets q := by
  induction octets generalizing p with
  | nil =>
    cases along
    exact .nil _
  | cons octet rest ih =>
    cases along with
    | cons first others => exact first.append (ih others)

/-- Words of options are those of some texts. -/
theorem exists_text_of_mapM {options : List Pattern} {words : List (List Nat)} {word : List Nat}
    (spelled : options.mapM octets? = some words) (member : word ∈ words) :
    ∃ cs, text cs ∈ options ∧ word = cs.flatMap fun c => Octets.ofNumber c.toNat := by
  induction options generalizing words with
  | nil =>
    cases spelled
    cases member
  | cons a rest ih =>
    simp only [List.mapM_cons, Option.bind_eq_bind, Option.bind_eq_some_iff, Option.pure_def, Option.some.injEq]
      at spelled
    obtain ⟨first, one, others, more, rfl⟩ := spelled
    rcases List.mem_cons.mp member with rfl | later
    · cases a <;> cases one
      exact ⟨_, List.mem_cons_self .., rfl⟩
    · obtain ⟨cs, among, same⟩ := ih more later
      exact ⟨cs, List.mem_cons_of_mem _ among, same⟩

mutual
/-- The piece of a pattern takes what the pattern matches. -/
theorem makes_pattern : ∀ a : Pattern, Makes content (a.make false) (Takes content a)
  | empty => makes_nothing.mono fun p q same between => same ▸ ⟨between, .empty _⟩
  | text cs => by
    have each : ∀ octets : List Nat, List.Forall₂ (Makes content) (octets.map fun n => Piece.octet n n)
        (octets.map fun octet p q => Reads content p [octet] q) := by
      intro octets
      induction octets with
      | nil => exact .nil
      | cons octet rest ih => exact .cons (makes_octet octet) ih
    rw [make]
    exact (makes_chain (each _)).mono fun p q along => takes_text (reads_of_along along)
  | set s => by
    rw [make]
    refine (SetPiece.makes_ofSet s).mono fun p q takes between => ?_
    obtain ⟨c, there, member, rfl⟩ := takes between
    exact ⟨rfl, .set there member⟩
  | look k => by
    rw [make]
    refine (makes_ofState (fun _ _ _ stays => by cases stays) (by simp)).mono fun p q left between => ?_
    cases left with
    | look _ holds => exact ⟨between, .look holds⟩
  | group index a => by
    rw [make]
    refine (makes_group (makes_pattern a) index).mono ?_
    rintro p _ ⟨r, inner, rfl⟩ between
    obtain ⟨ends, found⟩ := inner between
    have place : p.place? = some p.place := by rw [Point.place?, if_pos between]
    have last : r.place? = some r.place := by rw [Point.place?, if_pos ends]
    refine ⟨ends, ?_⟩
    simp only [Point.bind, place, last, Option.getD_some] at found ⊢
    exact .group found
  | loop greedy least most a => by
    rw [make]
    refine (makes_loop (makes_pattern a) greedy least most _).mono ?_
    rintro p q ⟨n, enough, bounded, rounds⟩ between
    rw [Rounds, ← List.map_replicate] at rounds
    obtain ⟨ends, row⟩ := takes_sequence rounds between
    exact ⟨ends, .loop enough bounded row⟩
  | sequence parts => by
    rw [make]
    exact (makes_chain (makes_each parts)).mono fun p q along => takes_sequence along
  | choice options => by
    rw [make]
    split
    · rename_i words spelled
      refine (WordTree.makes_words words).mono ?_
      rintro p q ⟨word, member, reads⟩ between
      obtain ⟨cs, among, rfl⟩ := exists_text_of_mapM spelled member
      obtain ⟨ends, found⟩ := takes_text reads between
      exact ⟨ends, .option among found⟩
    · refine (makes_choice (makes_each options)).mono ?_
      rintro p q ⟨course, member, takes⟩ between
      obtain ⟨a, among, rfl⟩ := List.mem_map.mp member
      obtain ⟨ends, found⟩ := takes between
      exact ⟨ends, .option among found⟩

theorem makes_each : ∀ parts : List Pattern,
    List.Forall₂ (Makes content) (makeEach false parts) (parts.map (Takes content))
  | [] => .nil
  | a :: rest => .cons (makes_pattern a) (makes_each rest)
end

end Pattern
end HttpExchange.Regex
