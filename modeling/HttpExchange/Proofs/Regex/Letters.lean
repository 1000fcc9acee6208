import HttpExchange.Proofs.Regex.Pieces
import HttpExchange.Regex.Assembly

/-!
Pieces that take one character or one of several words. Their states are made from the last octet to the first, each
with all its ways, so that a state may be come to by whoever is led on by every way that takes the next octet.
-/
namespace HttpExchange.Regex
open Making (Leads)
variable {content : Array Char} {goal : Point → Prop} {plan plan' : Plan} {ends : List OpenEnd}

/-- Every move that takes the next octet leads where the plan admits it. -/
def Plan.Fits (content : Array Char) (plan : Plan) (moves : List Move) (p : Point) : Prop :=
  ∀ move ∈ moves, ∀ octet, move.takes octet = true → p.octet? content = some octet →
    plan.Admits move.next (p.onward content)

theorem Plan.Fits.grown {moves : List Move} {p : Point} (fits : plan.Fits content moves p) (grown : plan.Grown plan') :
    plan'.Fits content moves p := fun move member octet takes next => (fits move member octet takes next).grown grown

/-- A state of moves is added for whoever fits them. -/
theorem leads_octets (sound : Sound content goal plan ends) (moves : List Move) {post : Nat → Plan → Prop}
    (holds : ∀ s plan', plan.Grown plan' → s < plan'.states.size → (∀ p, plan.Fits content moves p → plan'.Admits s p) →
      Sound content goal plan' ends → post s plan') :
    Leads (Making.add (.octets moves)) plan post := by
  refine .addClosed sound (plan.Fits content moves) (by simp) ?_ holds
  rintro p next q fits (stays | ⟨led, -⟩)
  · cases stays with
    | octets member takes next => exact fits _ member _ takes next
  · cases led

/-- So is a state of one move. -/
theorem leads_octet (sound : Sound content goal plan ends) (move : Move) {post : Nat → Plan → Prop}
    (holds : ∀ s plan', plan.Grown plan' → s < plan'.states.size →
      (∀ p, plan.Fits content [move] p → plan'.Admits s p) →
      Sound content goal plan' ends → post s plan') :
    Leads (Making.add (.octet move)) plan post := by
  refine .addClosed sound (plan.Fits content [move]) (by simp) ?_ holds
  rintro p next q fits (stays | ⟨led, left⟩)
  · cases stays
  · cases led
    cases left with
    | octet takes next => exact fits move (List.mem_singleton_self move) _ takes next

/-- The octet lies in one of the spans. -/
def Octets.InSpans (spans : List Octets.Span) (octet : Nat) : Prop := ∃ span ∈ spans, span.1 ≤ octet ∧ octet ≤ span.2

/-- A piece of spans takes an octet of one of them. -/
theorem makes_ofOctets (spans : List Octets.Span) :
    Makes content (SetPiece.ofOctets spans) fun p q =>
      ∃ octet, Octets.InSpans spans octet ∧ Reads content p [octet] q := by
  intro goal plan ends before sound
  refine Leads.bind (.pass sound
    (fun q => ∃ p, before p ∧ ∃ octet, Octets.InSpans spans octet ∧ Reads content p [octet] q)
    fun target plan₁ grown₁ arrives sound₁ => ?_)
  refine Leads.bind (leads_octets sound₁ _ fun first plan₂ grown₂ _ starts sound₂ => .pure ⟨?_, sound₂⟩)
  intro p entered
  refine starts p fun move member octet takes next => ?_
  obtain ⟨span, among, rfl⟩ := List.mem_map.mp member
  simp only [Move.takes, Bool.and_eq_true, decide_eq_true_eq] at takes
  exact arrives _ ⟨p, entered, octet, ⟨span, among, takes⟩, .cons next (.nil _)⟩

/-! ### What is remembered -/

namespace Memo

/-- The key of a state is its moves. -/
def keyOf (moves : List Move) : List Nat := moves.flatMap fun m => [m.first, m.last, m.next]

theorem keyOf_injective {moves others : List Move} (same : keyOf moves = keyOf others) : moves = others := by
  induction moves generalizing others with
  | nil =>
    cases others with
    | nil => rfl
    | cons move rest => cases same
  | cons move moves ih =>
    cases others with
    | nil => cases same
    | cons other rest =>
      simp only [keyOf, List.flatMap_cons, List.cons_append, List.nil_append, List.cons.injEq] at same
      obtain ⟨first, last, next, behind⟩ := same
      rw [ih behind]
      cases move
      cases other
      cases first
      cases last
      cases next
      rfl

/-- Whoever fits the moves of a remembered state may come to it. -/
def Recalls (content : Array Char) (memo : Memo) (plan : Plan) : Prop :=
  ∀ moves s, memo.lookUp? (keyOf moves) = some s →
    s < plan.states.size ∧ (∀ move ∈ moves, move.next < plan.states.size) ∧
    ∀ p, plan.Fits content moves p → plan.Admits s p

variable {memo : Memo}

theorem recalls_empty (places : Nat) : Recalls content (empty places) plan := by
  intro moves s found
  simp [lookUp?, empty] at found

theorem Recalls.grown (recalls : Recalls content memo plan) (grown : plan.Grown plan') :
    Recalls content memo plan' := by
  intro moves s found
  obtain ⟨inside, small, admits⟩ := recalls moves s found
  refine ⟨Nat.lt_of_lt_of_le inside grown.size, fun move member => Nat.lt_of_lt_of_le (small move member) grown.size,
    fun p fits => (admits p fun move member octet takes next => ?_).grown grown⟩
  have labelled := (fits move member octet takes next).labelled
  rw [grown.same _ (small move member)] at labelled
  exact ⟨small move member, labelled⟩

/-- The table holds what was remembered last, or what was there before. -/
theorem lookUp?_remember {key other : List Nat} {s t : Nat} (found : (memo.remember key s).lookUp? other = some t) :
    other = key ∧ t = s ∨ memo.lookUp? other = some t := by
  unfold lookUp? remember at found
  simp only [Std.HashMap.getElem?_insert] at found
  split at found
  · simp only [Option.bind_some, Option.ite_none_right_eq_some, Option.some.injEq] at found
    exact .inl ⟨found.1.symm, found.2.symm⟩
  · exact .inr found

end Memo

namespace SetPiece
variable {memo : Memo} {target : Nat}

/-- A state of moves is remembered or added, for whoever fits them. -/
theorem leads_ofMoves (sound : Sound content goal plan ends) (recalls : Memo.Recalls content memo plan)
    {moves : List Move}
    (small : ∀ move ∈ moves, move.next < plan.states.size) :
    Leads (ofMoves moves memo) plan fun made plan' => made.1 < plan'.states.size ∧ Memo.Recalls content made.2 plan' ∧
      (∀ p, plan.Fits content moves p → plan'.Admits made.1 p) ∧ Sound content goal plan' ends := by
  have turned : ∀ p, plan.Fits content moves p → plan.Fits content moves.reverse p := fun p fits move member =>
    fits move (List.mem_reverse.mp member)
  unfold ofMoves Memo.recallOrMake
  split
  · rename_i s found
    obtain ⟨inside, -, admits⟩ := recalls moves.reverse s found
    exact .pure ⟨inside, recalls, fun p fits => admits p (turned p fits), sound⟩
  · refine Leads.bind (leads_octets sound moves.reverse fun s plan₁ grown₁ inside admits sound₁ => .pure ?_)
    refine ⟨inside, fun others t found => ?_, fun p fits => admits p (turned p fits), sound₁⟩
    rcases Memo.lookUp?_remember found with ⟨same, rfl⟩ | before
    · obtain rfl := Memo.keyOf_injective same
      have small₁ : ∀ move ∈ moves.reverse, move.next < plan.states.size := fun move member =>
        small move (List.mem_reverse.mp member)
      refine ⟨inside, fun move member => Nat.lt_of_lt_of_le (small₁ move member) grown₁.size, fun p fits =>
        admits p fun move member octet takes next => ⟨small₁ move member, ?_⟩⟩
      rw [← grown₁.same _ (small₁ move member)]
      exact (fits move member octet takes next).labelled
    · exact recalls.grown grown₁ others t before

/-! ### Characters of a set -/

/-- The spans of open states lead from a point to the target, and their moves to where the plan admits it. -/
def Awaits (content : Array Char) (plan : Plan) (target : Nat) : List OpenState → Point → Prop
  | [], p => plan.Admits target p
  | s :: behind, p => plan.Fits content s.moves p ∧ ∀ span, s.pending = some span → ∀ octet, span.1 ≤ octet →
      octet ≤ span.2 → p.octet? content = some octet → Awaits content plan target behind (p.onward content)

/-- The moves of open states lead to states that there are. -/
def Small (plan : Plan) (states : List OpenState) : Prop := ∀ s ∈ states, ∀ move ∈ s.moves, move.next < plan.states.size

/-- Octets of the spans lead from a point to the target. -/
def Spells (content : Array Char) (plan : Plan) (target : Nat) (spans : List Octets.Span) (p : Point) : Prop :=
  ∀ octets q, Octets.Within spans octets → Reads content p octets q → plan.Admits target q

theorem Awaits.grown {states : List OpenState} {p : Point} (awaits : Awaits content plan target states p)
    (grown : plan.Grown plan') : Awaits content plan' target states p := by
  induction states generalizing p with
  | nil => exact Plan.Admits.grown awaits grown
  | cons s behind ih =>
    exact ⟨awaits.1.grown grown, fun span pending octet low high next => ih (awaits.2 span pending octet low high next)⟩

theorem Small.grown {states : List OpenState} (small : Small plan states) (grown : plan.Grown plan') :
    Small plan' states := fun s member move among => Nat.lt_of_lt_of_le (small s member move among) grown.size

theorem Spells.behind {span : Octets.Span} {rest : List Octets.Span} {p : Point}
    (spells : Spells content plan target (span :: rest) p) {octet : Nat} (low : span.1 ≤ octet) (high : octet ≤ span.2)
    (next : p.octet? content = some octet) : Spells content plan target rest (p.onward content) :=
  fun octets q within reads => spells (octet :: octets) q (.cons ⟨low, high⟩ within) (.cons next reads)

/-- New open states await what their spans write. -/
theorem awaits_new {spans : List Octets.Span} {p : Point} (spells : Spells content plan target spans p) :
    Awaits content plan target (spans.map fun span => ⟨[], some span⟩) p := by
  induction spans generalizing p with
  | nil => exact spells [] p .nil (.nil p)
  | cons span rest ih =>
    refine ⟨fun move member => (List.not_mem_nil member).elim, fun _ pending octet low high next => ?_⟩
    cases pending
    exact ih (spells.behind low high next)

theorem small_new (spans : List Octets.Span) : Small plan (spans.map fun span => ⟨[], some span⟩) := by
  intro s member move among
  obtain ⟨span, -, rfl⟩ := List.mem_map.mp member
  cases among

/-- The moves of a state whose open one leads to `next` fit those who await it. -/
theorem fits_closed {s : OpenState} {behind : List OpenState} {next : Nat} {p : Point} (grown : plan.Grown plan')
    (awaits : Awaits content plan target (s :: behind) p)
    (admits : ∀ q, Awaits content plan target behind q → plan'.Admits next q) :
    plan'.Fits content (s.closed next) p := by
  unfold OpenState.closed
  split
  · rename_i first last pending
    intro move member octet takes follows
    rcases List.mem_cons.mp member with rfl | before
    · simp only [Move.takes, Bool.and_eq_true, decide_eq_true_eq] at takes
      exact admits _ (awaits.2 _ pending octet takes.1 takes.2 follows)
    · exact (awaits.1 move before octet takes follows).grown grown
  · exact awaits.1.grown grown

theorem small_closed {s : OpenState} {next : Nat} (inside : next < plan.states.size)
    (small : ∀ move ∈ s.moves, move.next < plan.states.size) :
    ∀ move ∈ s.closed next, move.next < plan.states.size := by
  unfold OpenState.closed
  split
  · exact List.forall_mem_cons.mpr ⟨inside, small⟩
  · exact small

/-- What closes open states may be come to by those who await them. -/
theorem leads_close {states : List OpenState} (sound : Sound content goal plan ends)
    (recalls : Memo.Recalls content memo plan) (inside : target < plan.states.size) (small : Small plan states) :
    Leads (close target states memo) plan fun made plan' => made.1 < plan'.states.size ∧
      Memo.Recalls content made.2 plan' ∧ (∀ p, Awaits content plan target states p → plan'.Admits made.1 p) ∧
        Sound content goal plan' ends := by
  induction states with
  | nil => exact .pure ⟨inside, recalls, fun p awaits => awaits, sound⟩
  | cons s behind ih =>
    change Leads (close target behind memo >>= fun made => ofMoves (s.closed made.1) made.2) plan _
    refine Leads.bind ((ih fun t member => small t (List.mem_cons_of_mem _ member)).mono ?_)
    rintro ⟨next, memo₁⟩ plan₁ grown₁ ⟨inside₁, recalls₁, admits₁, sound₁⟩
    have small₁ := small_closed inside₁ ((small.grown grown₁) s (List.mem_cons_self ..))
    refine (leads_ofMoves sound₁ recalls₁ small₁).mono ?_
    rintro made plan₂ - ⟨inside₂, recalls₂, admits₂, sound₂⟩
    exact ⟨inside₂, recalls₂, fun p awaits => admits₂ p (fits_closed grown₁ awaits admits₁), sound₂⟩

/-- Open states with a sequence more are awaited by those who await them and go on by the sequence. -/
theorem leads_insert {states : List OpenState} {spans : List Octets.Span} (sound : Sound content goal plan ends)
    (recalls : Memo.Recalls content memo plan) (inside : target < plan.states.size) (small : Small plan states) :
    Leads (insert target states spans memo) plan fun made plan' => Small plan' made.1 ∧
      Memo.Recalls content made.2 plan' ∧ (∀ p, Awaits content plan target states p →
        Spells content plan target spans p → Awaits content plan' target made.1 p) ∧ Sound content goal plan' ends := by
  induction spans generalizing states with
  | nil =>
    cases states with
    | nil => exact .pure ⟨small_new [], recalls, fun p _ spells => awaits_new spells, sound⟩
    | cons s behind => exact .pure ⟨small, recalls, fun p awaits _ => awaits, sound⟩
  | cons span rest ih =>
    cases states with
    | nil => exact .pure ⟨small_new (span :: rest), recalls, fun p _ spells => awaits_new spells, sound⟩
    | cons s behind =>
      have smallBehind : Small plan behind := fun t member => small t (List.mem_cons_of_mem _ member)
      by_cases same : s.pending = some span
      · have unfolded : insert target (s :: behind) (span :: rest) =
            (do return s :: (← insert target behind rest)) := by
          rw [insert, if_pos same]
        rw [unfolded]
        change Leads (insert target behind rest memo >>= fun made => Pure.pure (s :: made.1, made.2)) plan _
        refine Leads.bind ((ih smallBehind).mono ?_)
        rintro ⟨states, memo₁⟩ plan₁ grown₁ ⟨small₁, recalls₁, awaited₁, sound₁⟩
        refine .pure ⟨List.forall_mem_cons.mpr ⟨(small.grown grown₁) s (List.mem_cons_self ..), small₁⟩, recalls₁,
          fun p awaits spells => ⟨awaits.1.grown grown₁, fun other pending octet low high next => ?_⟩, sound₁⟩
        have led := awaits.2 other pending octet low high next
        rw [same, Option.some.injEq] at pending
        subst pending
        exact awaited₁ _ led (spells.behind low high next)
      · have unfolded : insert target (s :: behind) (span :: rest) =
            (do return ⟨s.closed (← close target behind), some span⟩ :: rest.map fun span => ⟨[], some span⟩) := by
          rw [insert, if_neg same]
        rw [unfolded]
        change Leads (close target behind memo >>= fun made =>
          Pure.pure ((⟨s.closed made.1, some span⟩ : OpenState) :: rest.map fun span => ⟨[], some span⟩, made.2)) plan _
        refine Leads.bind ((leads_close sound recalls inside smallBehind).mono ?_)
        rintro ⟨next, memo₁⟩ plan₁ grown₁ ⟨inside₁, recalls₁, admits₁, sound₁⟩
        refine .pure ⟨List.forall_mem_cons.mpr ⟨small_closed inside₁ ((small.grown grown₁) s (List.mem_cons_self ..)),
          small_new rest⟩, recalls₁, fun p awaits spells => ⟨fits_closed grown₁ awaits admits₁, ?_⟩, sound₁⟩
        rintro _ pending octet low high next
        cases pending
        exact (awaits_new (spells.behind low high next)).grown grown₁

theorem leads_insertAll {all : List (List Octets.Span)} {states : List OpenState} (sound : Sound content goal plan ends)
    (recalls : Memo.Recalls content memo plan) (inside : target < plan.states.size) (small : Small plan states) :
    Leads (all.foldlM (insert target) states memo) plan fun made plan' => Small plan' made.1 ∧
      Memo.Recalls content made.2 plan' ∧ (∀ p, Awaits content plan target states p →
        (∀ spans ∈ all, Spells content plan target spans p) → Awaits content plan' target made.1 p) ∧
          Sound content goal plan' ends := by
  induction all generalizing plan states memo with
  | nil => exact .pure ⟨small, recalls, fun p awaits _ => awaits, sound⟩
  | cons spans rest ih =>
    rw [List.foldlM_cons]
    change Leads (insert target states spans memo >>= fun made => rest.foldlM (insert target) made.1 made.2) plan _
    refine Leads.bind ((leads_insert sound recalls inside small).mono ?_)
    rintro ⟨states₁, memo₁⟩ plan₁ grown₁ ⟨small₁, recalls₁, awaited₁, sound₁⟩
    refine (ih sound₁ recalls₁ (Nat.lt_of_lt_of_le inside grown₁.size) small₁).mono ?_
    rintro made plan₂ - ⟨small₂, recalls₂, awaited₂, sound₂⟩
    refine ⟨small₂, recalls₂, fun p awaits spells => ?_, sound₂⟩
    refine awaited₂ p (awaited₁ p awaits (spells spans (List.mem_cons_self ..)))
      fun others member octets q within reads => ?_
    exact (spells others (List.mem_cons_of_mem _ member) octets q within reads).grown grown₁

/-- The octets write a character of the set. -/
def Writes (s : CharSet) (octets : List Nat) : Prop :=
  ∃ run ∈ s.toList, ∃ spans ∈ Octets.sequences run, Octets.Within spans octets

theorem makes_forward (s : CharSet) :
    Makes content (forward s) fun p q => ∃ octets, Writes s octets ∧ Reads content p octets q := by
  intro goal plan ends before sound
  let after : Point → Prop := fun q => ∃ p, before p ∧ ∃ octets, Writes s octets ∧ Reads content p octets q
  refine Leads.bind (.pass sound after fun target plan₁ grown₁ arrives sound₁ => ?_)
  have inside := sound₁.bounded target after (List.mem_cons_self ..)
  have open_ : Small plan₁ [⟨[], none⟩] := by simp [Small]
  refine Leads.bind ?_
  change Leads ((s.toList.flatMap Octets.sequences).foldlM (insert target) [⟨[], none⟩] (Memo.empty 10000) >>=
    fun made => close target made.1 made.2) plan₁ _
  refine Leads.bind ((leads_insertAll sound₁ (Memo.recalls_empty 10000) inside open_).mono ?_)
  rintro ⟨states, memo⟩ plan₂ grown₂ ⟨small₂, recalls₂, awaited₂, sound₂⟩
  refine (leads_close sound₂ recalls₂ (Nat.lt_of_lt_of_le inside grown₂.size) small₂).mono ?_
  rintro ⟨first, memo'⟩ plan₃ grown₃ ⟨-, -, admits₃, sound₃⟩
  refine .pure ⟨fun p entered => admits₃ p (awaited₂ p ?_ ?_), sound₃⟩
  · exact ⟨fun move member => (List.not_mem_nil member).elim, fun _ pending => by cases pending⟩
  · intro spans member octets q within reads
    obtain ⟨run, among, written⟩ := List.mem_flatMap.mp member
    exact arrives q ⟨p, entered, octets, ⟨run, among, spans, written, within⟩, reads⟩

/-- A piece of a set takes one of its characters. -/
theorem makes_ofSet (s : CharSet) : Makes content (ofSet false s) fun p q => p.taken = 0 →
    ∃ c, content[p.place]? = some c ∧ s.contains c.toNat ∧ q = ⟨p.place + 1, 0, p.slots⟩ := by
  have contains : ∀ run ∈ s.toList, ∀ n, run.1 ≤ n → n ≤ run.2 → s.contains n := fun run member n low high =>
    List.any_eq_true.mpr ⟨run, member, by simpa using ⟨low, high⟩⟩
  unfold ofSet
  split
  · rename_i ascii
    refine (makes_ofOctets s.toList).mono fun p q ⟨octet, ⟨run, member, low, high⟩, reads⟩ between => ?_
    have small : octet < 0x80 := Nat.lt_of_le_of_lt high (of_decide_eq_true (List.all_eq_true.mp ascii run member))
    obtain ⟨c, there, written, behind⟩ := reads.char between (by rw [Octets.lengthBy, if_pos small]; rfl)
    obtain rfl : c.toNat = octet := by
      have alone : Octets.ofNumber octet = [octet] := by rw [Octets.ofNumber, if_pos small]
      exact Octets.ofNumber_injective (written.trans alone.symm)
    exact ⟨c, there, contains run member _ low high, behind⟩
  · refine (makes_forward s).mono fun p q ⟨octets, ⟨run, member, spans, written, within⟩, reads⟩ between => ?_
    obtain ⟨c, there, low, high, behind⟩ := reads.between between written within
    exact ⟨c, there, contains run member _ low high, behind⟩

end SetPiece

/-! ### Words -/

namespace WordTree

/-- The words of a tree. A way behind which there is no other ends a word. -/
inductive Spells : List WordTree → List Nat → Prop
  | stop {trees : List WordTree} (member : stop ∈ trees) : Spells trees []
  | leaf {trees behind : List WordTree} {octet : Nat} (member : way octet behind ∈ trees)
      (last : isLeaf behind = true) :
      Spells trees [octet]
  | way {trees behind : List WordTree} {octet : Nat} {rest : List Nat} (member : way octet behind ∈ trees)
      (others : Spells behind rest) : Spells trees (octet :: rest)

theorem mem_change {octet : Nat} {f : List WordTree → List WordTree} {trees : List WordTree} {tree : WordTree}
    (member : tree ∈ change octet f trees) :
    tree ∈ trees ∨ tree = way octet (f []) ∨ ∃ behind, way octet behind ∈ trees ∧ tree = way octet (f behind) := by
  fun_induction change octet f trees with
  | case1 other behind before less ih =>
    rcases List.mem_cons.mp member with rfl | later
    · exact .inl (List.mem_cons_self ..)
    · rcases ih later with old | new | ⟨inner, old, same⟩
      · exact .inl (List.mem_cons_of_mem _ old)
      · exact .inr (.inl new)
      · exact .inr (.inr ⟨inner, List.mem_cons_of_mem _ old, same⟩)
  | case2 behind before less =>
    rcases List.mem_cons.mp member with rfl | later
    · exact .inr (.inr ⟨behind, List.mem_cons_self .., rfl⟩)
    · exact .inl (List.mem_cons_of_mem _ later)
  | case3 other behind before less different =>
    rcases List.mem_cons.mp member with rfl | old
    · exact .inr (.inl rfl)
    · exact .inl old
  | case4 before =>
    rcases List.mem_cons.mp member with rfl | old
    · exact .inr (.inl rfl)
    · exact .inl old

/-- A word that goes on leaves a way. -/
theorem not_isLeaf_insert {octet : Nat} {rest : List Nat} (trees : List WordTree) :
    isLeaf (insert (octet :: rest) trees) = false := by
  rw [insert]
  fun_induction change octet (insert rest) trees <;> simp_all [isLeaf]

/-- A tree with a word more has no other word more. -/
theorem spells_insert {word octets : List Nat} {trees : List WordTree} (spells : Spells (insert word trees) octets) :
    octets = word ∨ Spells trees octets := by
  induction word generalizing trees octets with
  | nil =>
    have member : ∀ tree, tree ∈ insert [] trees → tree = stop ∨ tree ∈ trees := by
      intro tree member
      unfold insert at member
      split at member
      · exact .inr member
      · exact List.mem_cons.mp member
      · rename_i same
        cases same
    cases spells with
    | stop => exact .inl rfl
    | leaf way last =>
      rcases member _ way with same | old
      · cases same
      · exact .inr (.leaf old last)
    | way way others =>
      rcases member _ way with same | old
      · cases same
      · exact .inr (.way old others)
  | cons octet rest ih =>
    rw [insert] at spells
    cases spells with
    | stop member =>
      rcases mem_change member with old | new | ⟨behind, old, same⟩
      · exact .inr (.stop old)
      · cases new
      · cases same
    | leaf member last =>
      have ends : ∀ inner, isLeaf (insert rest inner) = true → rest = [] := by
        intro inner leaf
        cases rest with
        | nil => rfl
        | cons next more =>
          rw [not_isLeaf_insert] at leaf
          cases leaf
      rcases mem_change member with old | new | ⟨inner, old, same⟩
      · exact .inr (.leaf old last)
      · cases new
        exact .inl (by rw [ends _ last])
      · cases same
        exact .inl (by rw [ends _ last])
    | way member others =>
      rcases mem_change member with old | new | ⟨inner, old, same⟩
      · exact .inr (.way old others)
      · cases new
        rcases ih others with rfl | none
        · exact .inl rfl
        · cases none <;> rename_i member <;> cases member
      · cases same
        rcases ih others with rfl | before
        · exact .inl rfl
        · exact .inr (.way old before)

theorem spells_ofWords {words : List (List Nat)} {octets : List Nat} (spells : Spells (ofWords words) octets) :
    octets ∈ words := by
  have all : ∀ trees, Spells (words.foldl (fun trees word => insert word trees) trees) octets →
      octets ∈ words ∨ Spells trees octets := by
    clear spells
    induction words with
    | nil => exact fun trees spells => .inr spells
    | cons word rest ih =>
      intro trees spells
      rcases ih _ spells with later | before
      · exact .inl (List.mem_cons_of_mem _ later)
      · rcases spells_insert before with rfl | old
        · exact .inl (List.mem_cons_self ..)
        · exact .inr old
  rcases all [] spells with member | none
  · exact member
  · cases none <;> rename_i member <;> cases member

/-- Words lead from a point to the target. -/
def Awaits (content : Array Char) (plan : Plan) (target : Nat) (trees : List WordTree) (p : Point) : Prop :=
  ∀ octets q, Spells trees octets → Reads content p octets q → plan.Admits target q

/-- The ways of a fork may be taken, and moves fit. -/
def Opens (content : Array Char) (plan : Plan) (ways : Array Nat) (moves : Array Move) (p : Point) : Prop :=
  (∀ way ∈ ways.toList, plan.Admits way p) ∧ plan.Fits content moves.toList p

variable {target : Nat}

theorem Opens.grown {ways : Array Nat} {moves : Array Move} {p : Point} (opens : Opens content plan ways moves p)
    (grown : plan.Grown plan') : Opens content plan' ways moves p :=
  ⟨fun way member => (opens.1 way member).grown grown, opens.2.grown grown⟩

theorem Awaits.mono {trees fewer : List WordTree} {p : Point} (awaits : Awaits content plan target trees p)
    (all : ∀ tree ∈ fewer, tree ∈ trees) : Awaits content plan target fewer p := by
  intro octets q spells reads
  refine awaits octets q ?_ reads
  cases spells with
  | stop member => exact .stop (all _ member)
  | leaf member last => exact .leaf (all _ member) last
  | way member others => exact .way (all _ member) others

theorem leads_forkMoves (sound : Sound content goal plan ends) (ways : Array Nat) (moves : Array Move) :
    Leads (forkMoves ways moves) plan fun ways' plan' =>
      (∀ p, Opens content plan ways moves p → ∀ way ∈ ways'.toList, plan'.Admits way p) ∧
        Sound content goal plan' ends := by
  unfold forkMoves
  split
  · exact .pure ⟨fun p opens => opens.1, sound⟩
  · rename_i move alone
    refine Leads.bind (leads_octet sound move fun s plan₁ grown₁ _ admits sound₁ => .pure ⟨fun p opens => ?_, sound₁⟩)
    rw [Array.toList_push]
    refine List.forall_mem_append.mpr ⟨fun way member => (opens.1 way member).grown grown₁, ?_⟩
    exact List.forall_mem_singleton.mpr (admits p (alone ▸ opens.2))
  · refine Leads.bind (leads_octets sound moves.toList fun s plan₁ grown₁ _ admits sound₁ =>
      .pure ⟨fun p opens => ?_, sound₁⟩)
    rw [Array.toList_push]
    refine List.forall_mem_append.mpr ⟨fun way member => (opens.1 way member).grown grown₁, ?_⟩
    exact List.forall_mem_singleton.mpr (admits p opens.2)

/-- A fork of given ways is added for whoever may take all of them. -/
theorem leads_fork (sound : Sound content goal plan ends) (ways : Array Nat) {post : Nat → Plan → Prop}
    (holds : ∀ s plan', plan.Grown plan' → (∀ p, (∀ way ∈ ways.toList, plan.Admits way p) → plan'.Admits s p) →
      Sound content goal plan' ends → post s plan') :
    Leads (Making.add (.fork false ways)) plan post := by
  refine .addClosed sound (fun p => ∀ way ∈ ways.toList, plan.Admits way p) (by simp) ?_
    fun s plan' grown _ => holds s plan' grown
  rintro p next q opens (stays | ⟨led, -⟩)
  · cases stays with
    | fork member => exact opens next member
  · cases led

/-- Those who await the words of a tree may take its ways and moves. -/
theorem leads_makeWays (trees : List WordTree) (sound : Sound content goal plan ends) :
    Leads (makeWays target trees) plan fun made plan' =>
      (∀ p, Awaits content plan target trees p → Opens content plan' made.1 made.2 p) ∧
        Sound content goal plan' ends := by
  fun_induction makeWays target trees generalizing plan with
  | case1 => exact .pure ⟨fun p _ => ⟨by simp, fun move member => (List.not_mem_nil member).elim⟩, sound⟩
  | case2 before ih =>
    refine Leads.bind ((ih sound).mono ?_)
    rintro ⟨ways, moves⟩ plan₁ grown₁ ⟨opened₁, sound₁⟩
    refine Leads.bind ((leads_forkMoves sound₁ ways moves).mono ?_)
    rintro ways' plan₂ grown₂ ⟨admits₂, sound₂⟩
    refine .pure ⟨fun p awaits => ⟨?_, fun move member => (List.not_mem_nil member).elim⟩, sound₂⟩
    rw [Array.toList_push]
    refine List.forall_mem_append.mpr ⟨admits₂ p (opened₁ p (awaits.mono fun _ => List.mem_cons_of_mem _)), ?_⟩
    have stops := awaits [] p (.stop (List.mem_cons_self ..)) (.nil p)
    exact List.forall_mem_singleton.mpr ((stops.grown grown₁).grown grown₂)
  | case3 octet behind before ihBefore ihBehind =>
    refine Leads.bind ((ihBefore sound).mono ?_)
    rintro ⟨ways, moves⟩ plan₁ grown₁ ⟨opened₁, sound₁⟩
    have opened : ∀ p, Awaits content plan target (way octet behind :: before) p →
        Opens content plan₁ ways moves p := fun p awaits => opened₁ p (awaits.mono fun _ => List.mem_cons_of_mem _)
    -- One more move, to where those who take the octet may come.
    have pushed : ∀ (plan₂ : Plan) (next : Nat), plan₁.Grown plan₂ →
        (∀ p, Awaits content plan target (way octet behind :: before) p → p.octet? content = some octet →
          plan₂.Admits next (p.onward content)) →
        ∀ p, Awaits content plan target (way octet behind :: before) p →
          Opens content plan₂ ways (moves.push ⟨octet, octet, next⟩) p := by
      intro plan₂ next grown₂ led p awaits
      refine ⟨((opened p awaits).grown grown₂).1, ?_⟩
      intro move member other takes follows
      rw [Array.toList_push, List.mem_append, List.mem_singleton] at member
      rcases member with old | rfl
      · exact ((opened p awaits).grown grown₂).2 move old other takes follows
      · simp only [Move.takes, Bool.and_eq_true, decide_eq_true_eq] at takes
        obtain rfl := Nat.le_antisymm takes.2 takes.1
        exact led p awaits follows
    dsimp only
    split
    · rename_i leaf
      refine .pure ⟨pushed plan₁ target (.refl plan₁) fun p awaits follows => ?_, sound₁⟩
      exact (awaits [octet] _ (.leaf (List.mem_cons_self ..) leaf) (.cons follows (.nil _))).grown grown₁
    · refine Leads.bind ((ihBehind sound₁).mono ?_)
      rintro ⟨inner, innerMoves⟩ plan₂ grown₂ ⟨opened₂, sound₂⟩
      refine Leads.bind ((leads_forkMoves sound₂ inner innerMoves).mono ?_)
      rintro inner' plan₃ grown₃ ⟨admits₃, sound₃⟩
      refine Leads.bind (leads_fork sound₃ inner' fun next plan₄ grown₄ admits₄ sound₄ => .pure ⟨?_, sound₄⟩)
      refine pushed plan₄ next (grown₂.trans (grown₃.trans grown₄)) fun p awaits follows => ?_
      refine admits₄ _ (admits₃ _ (opened₂ _ fun octets q spells reads => ?_))
      exact (awaits (octet :: octets) q (.way (List.mem_cons_self ..) spells) (.cons follows reads)).grown grown₁

/-- A piece of words takes one of them. -/
theorem makes_words (words : List (List Nat)) :
    Makes content (make words) fun p q => ∃ word ∈ words, Reads content p word q := by
  intro goal plan ends before sound
  let after : Point → Prop := fun q => ∃ p, before p ∧ ∃ word ∈ words, Reads content p word q
  refine Leads.bind (.pass sound after fun target plan₁ grown₁ arrives sound₁ => ?_)
  refine Leads.bind ((leads_makeWays (ofWords words) sound₁).mono ?_)
  rintro ⟨ways, moves⟩ plan₂ grown₂ ⟨opened₂, sound₂⟩
  refine Leads.bind ((leads_forkMoves sound₂ ways moves).mono ?_)
  rintro ways' plan₃ grown₃ ⟨admits₃, sound₃⟩
  refine Leads.bind (leads_fork sound₃ ways' fun first plan₄ grown₄ admits₄ sound₄ => .pure ⟨?_, sound₄⟩)
  intro p entered
  refine admits₄ p (admits₃ p (opened₂ p fun octets q spells reads => ?_))
  exact arrives q ⟨p, entered, octets, spells_ofWords spells, reads⟩

end WordTree

end HttpExchange.Regex
