import HttpExchange.Proofs.Regex.Letters

/-!
Pieces with forks: one of several, once or not at all, again and again. The label of a fork is what holds whichever way
was taken before.
-/
namespace HttpExchange.Regex
open Making (Leads)
variable {content : Array Char} {goal : Point → Prop} {make : Making Piece} {course : Point → Point → Prop}
  {plan : Plan}
  {ends : List OpenEnd}

/-- A piece once or not at all. -/
theorem makes_optional (makes : Makes content make course) (greedy : Bool) :
    Makes content (Piece.optional greedy make) fun p q => q = p ∨ course p q := by
  intro goal plan ends before sound
  let taken : Point → Prop := fun q => ∃ p, before p ∧ course p q
  let after : Point → Prop := fun q => ∃ p, before p ∧ (q = p ∨ course p q)
  refine Leads.bind (.fork sound before fun start plan₁ grown₁ starts sound₁ => ?_)
  refine Leads.bind (makes.leads sound₁ before fun a plan₂ grown₂ enters sound₂ => ?_)
  refine Leads.bind (.pass sound₂ after fun target plan₃ grown₃ arrives sound₃ => ?_)
  refine Leads.bind (.linkOn sound₃ before (by simp) (fun q led => (enters q led).grown grown₃)
    fun plan₄ grown₄ sound₄ => ?_)
  refine Leads.bind (.link sound₄ before ((target, after) :: (a.last, taken) :: ends) (by simp)
    (fun q led => (arrives q ⟨q, led, .inl rfl⟩).grown grown₄) (by grind) (by grind) fun plan₅ grown₅ sound₅ => ?_)
  refine Leads.bind (.link sound₅ taken ((target, after) :: ends) (by simp) ?_ (by grind) (by grind)
    fun plan₆ grown₆ sound₆ => .pure ⟨?_, sound₆⟩)
  · rintro q ⟨p, entered, led⟩
    exact ((arrives q ⟨p, entered, .inr led⟩).grown grown₄).grown grown₅
  · exact fun p entered => (starts p entered).grown
      (grown₂.trans (grown₃.trans (grown₄.trans (grown₅.trans grown₆))))

/-! ### Rounds -/

/-- So many rounds of a course. -/
abbrev Rounds (course : Point → Point → Prop) (n : Nat) : Point → Point → Prop := Along (List.replicate n course)

theorem Rounds.round {n : Nat} {p q r : Point} (rounds : Rounds course n p q) (last : course q r) :
    Rounds course (n + 1) p r := by
  rw [Rounds, List.replicate_succ']
  exact rounds.append (.cons last (.nil r))

theorem Rounds.add {m n : Nat} {p q r : Point} (first : Rounds course m p q) (others : Rounds course n q r) :
    Rounds course (m + n) p r := by
  rw [Rounds, List.replicate_add]
  exact first.append others

/-- A piece any number of times. -/
theorem makes_star (makes : Makes content make course) (greedy takes : Bool) :
    Makes content (Piece.star greedy takes make) fun p q => ∃ n, Rounds course n p q := by
  intro goal plan ends before sound
  let after : Point → Prop := fun q => ∃ p, before p ∧ ∃ n, Rounds course n p q
  let further : Point → Prop := fun q => ∃ p, after p ∧ course p q
  have round : ∀ q, further q → after q := by
    rintro q ⟨p, ⟨p₀, entered, n, rounds⟩, last⟩
    exact ⟨p₀, entered, n + 1, rounds.round last⟩
  have none : ∀ p, before p → after p := fun p entered => ⟨p, entered, 0, .nil p⟩
  unfold Piece.star
  split
  · refine Leads.bind (.fork sound after fun start plan₁ grown₁ starts sound₁ => ?_)
    refine Leads.bind (makes.leads sound₁ after fun a plan₂ grown₂ enters sound₂ => ?_)
    refine Leads.bind (.linkOn sound₂ after (by simp) enters fun plan₃ grown₃ sound₃ => ?_)
    have starts₃ : ∀ p, after p → plan₃.Admits start p := fun p led => ((starts p led).grown grown₂).grown grown₃
    refine Leads.bind (.link sound₃ further ((start, after) :: ends) (by simp [further])
      (fun q led => starts₃ q (round q led))
      (by grind) (by grind) fun plan₄ grown₄ sound₄ => .pure ⟨?_, sound₄⟩)
    exact fun p entered => (starts₃ p (none p entered)).grown grown₄
  · refine Leads.bind (makes.leads sound after fun a plan₁ grown₁ enters sound₁ => ?_)
    refine Leads.bind (.fork sound₁ after fun again plan₂ grown₂ repeats sound₂ => ?_)
    refine Leads.bind (.link sound₂ further ((again, after) :: ends) (by simp [further])
      (fun q led => repeats q (round q led)) (by grind) (by grind) fun plan₃ grown₃ sound₃ => ?_)
    have enters₃ : ∀ p, after p → plan₃.Admits a.first p := fun p led => ((enters p led).grown grown₂).grown grown₃
    refine Leads.bind (.linkOn sound₃ after (by simp) enters₃ fun plan₄ grown₄ sound₄ => ?_)
    refine Leads.bind (.fork sound₄ before fun start plan₅ grown₅ starts sound₅ => ?_)
    refine Leads.bind (.pass sound₅ after fun target plan₆ grown₆ arrives sound₆ => ?_)
    refine Leads.bind (.linkOn sound₆ before (by simp)
      (fun q led => (((enters₃ q (none q led)).grown grown₄).grown grown₅).grown grown₆) fun plan₇ grown₇ sound₇ => ?_)
    refine Leads.bind (.link sound₇ before ((target, after) :: (again, after) :: ends) (by simp)
      (fun q led => (arrives q (none q led)).grown grown₇) (by grind) (by grind) fun plan₈ grown₈ sound₈ => ?_)
    refine Leads.bind (.link sound₈ after ((target, after) :: ends) (by simp)
      (fun q led => ((arrives q led).grown grown₇).grown grown₈) (by grind) (by grind)
      fun plan₉ grown₉ sound₉ => .pure ⟨?_, sound₉⟩)
    exact fun p entered => (starts p entered).grown (grown₆.trans (grown₇.trans (grown₈.trans grown₉)))

/-- A piece at least `n + 1` times. -/
theorem makes_plus (makes : Makes content make course) (greedy : Bool) (n : Nat) :
    Makes content (Piece.plus greedy n make) fun p q => ∃ rounds > n, Rounds course rounds p q := by
  intro goal plan ends before sound
  let within : Point → Prop := fun q => ∃ p, before p ∧ ∃ rounds ≥ n, Rounds course rounds p q
  let after : Point → Prop := fun q => ∃ p, before p ∧ ∃ rounds > n, Rounds course rounds p q
  let further : Point → Prop := fun q => ∃ p, within p ∧ course p q
  have round : ∀ q, further q → after q := by
    rintro q ⟨p, ⟨p₀, entered, rounds, enough, row⟩, last⟩
    exact ⟨p₀, entered, rounds + 1, Nat.lt_succ_of_le enough, row.round last⟩
  have again : ∀ q, after q → within q := fun q ⟨p, entered, rounds, more, row⟩ =>
    ⟨p, entered, rounds, Nat.le_of_lt more, row⟩
  unfold Piece.plus
  split
  · refine Leads.bind (makes.leads sound within fun a plan₁ grown₁ enters sound₁ => ?_)
    refine Leads.bind (.fork sound₁ after fun back plan₂ grown₂ repeats sound₂ => ?_)
    refine Leads.bind (.link sound₂ further ((back, after) :: ends) (by simp [further])
      (fun q led => repeats q (round q led)) (by grind) (by grind) fun plan₃ grown₃ sound₃ => ?_)
    have enters₃ : ∀ p, within p → plan₃.Admits a.first p := fun p led => ((enters p led).grown grown₂).grown grown₃
    refine Leads.bind (.linkOn sound₃ after (by simp) (fun q led => enters₃ q (again q led))
      fun plan₄ grown₄ sound₄ => .pure ⟨?_, sound₄⟩)
    exact fun p entered => (enters₃ p ⟨p, entered, 0, Nat.le_of_eq ‹n = 0›, .nil p⟩).grown grown₄
  · let exactly : Point → Prop := fun q => ∃ p, before p ∧ Rounds course n p q
    refine Leads.bind ((makes_times makes n).leads sound before fun a plan₁ grown₁ enters sound₁ => ?_)
    refine Leads.bind (makes.leads sound₁ within fun b plan₂ grown₂ goes sound₂ => ?_)
    refine Leads.bind (.fork sound₂ after fun back plan₃ grown₃ repeats sound₃ => ?_)
    refine Leads.bind (.link sound₃ exactly ((back, after) :: (b.last, further) :: ends) (by simp [exactly]) ?_
      (by grind) (by grind) fun plan₄ grown₄ sound₄ => ?_)
    · rintro q ⟨p, entered, row⟩
      exact (goes q ⟨p, entered, n, Nat.le_refl n, row⟩).grown grown₃
    refine Leads.bind (.link sound₄ further ((back, after) :: ends) (by simp)
      (fun q led => (repeats q (round q led)).grown grown₄) (by grind) (by grind) fun plan₅ grown₅ sound₅ => ?_)
    refine Leads.bind (.linkOn sound₅ after (by simp)
      (fun q led => (((goes q (again q led)).grown grown₃).grown grown₄).grown grown₅)
      fun plan₆ grown₆ sound₆ => .pure ⟨?_, sound₆⟩)
    exact fun p entered => (enters p entered).grown
      (grown₂.trans (grown₃.trans (grown₄.trans (grown₅.trans grown₆))))

/-- A piece once more or not, before a target. -/
def Piece.onceMore (greedy : Bool) (make : Making Piece) (target : Nat) (a : Piece) : Making Piece := do
  let start ← fork (!greedy)
  let b ← make
  Making.link a.last start
  Making.link start b.first
  Making.link start target
  return ⟨a.first, b.last⟩

theorem upTo_succ (greedy : Bool) (target n : Nat) (a : Piece) :
    Piece.upTo greedy make target (n + 1) a =
      Piece.onceMore greedy make target a >>= Piece.upTo greedy make target n := by
  funext d
  change _ = (Piece.onceMore greedy make target a d).bind fun made => Piece.upTo greedy make target n made.1 made.2
  rw [Piece.upTo]
  unfold Piece.onceMore
  split
  · rename_i made
    rw [made]
    rfl
  · rename_i none
    rw [none]
    rfl

/-- A piece up to `n` times more behind an open end, before a target. -/
theorem leads_upTo (makes : Makes content make course) (greedy : Bool) {target : Nat}
    {before after whole : Point → Prop}
    {n : Nat} {a : Piece} (sound : Sound content goal plan ((target, whole) :: (a.last, after) :: ends))
    (arrives : ∀ q, whole q → plan.Admits target q) (admits : ∀ p, before p → plan.Admits a.first p)
    (covers : ∀ k ≤ n, ∀ p q, after p → Rounds course k p q → whole q) :
    Leads (Piece.upTo greedy make target n a) plan fun piece plan' => (∀ p, before p → plan'.Admits piece.first p) ∧
      Sound content goal plan' ((piece.last, whole) :: ends) := by
  induction n generalizing plan a after with
  | zero =>
    refine Leads.bind (.link sound after ((target, whole) :: ends) (by simp)
      (fun q led => arrives q (covers 0 (Nat.le_refl 0) q q led (.nil q))) (by grind) (by grind)
      fun plan₁ grown₁ sound₁ => .pure ⟨fun p entered => (admits p entered).grown grown₁, sound₁⟩)
  | succ n ih =>
    rw [upTo_succ]
    let further : Point → Prop := fun q => ∃ p, after p ∧ course p q
    refine Leads.bind ?_
    refine Leads.bind (.fork sound after fun start plan₁ grown₁ starts sound₁ => ?_)
    refine Leads.bind (makes.leads sound₁ after fun b plan₂ grown₂ enters sound₂ => ?_)
    refine Leads.bind (.link sound₂ after ((start, after) :: (target, whole) :: (b.last, further) :: ends) (by simp)
      (fun q led => (starts q led).grown grown₂) (by grind) (by grind) fun plan₃ grown₃ sound₃ => ?_)
    refine Leads.bind (.linkOn sound₃ after (by simp) (fun q led => (enters q led).grown grown₃)
      fun plan₄ grown₄ sound₄ => ?_)
    have grown := grown₁.trans (grown₂.trans (grown₃.trans grown₄))
    refine Leads.bind (.link sound₄ after ((target, whole) :: (b.last, further) :: ends) (by simp)
      (fun q led => (arrives q (covers 0 (Nat.zero_le _) q q led (.nil q))).grown grown) (by grind) (by grind)
      fun plan₅ grown₅ sound₅ => .pure ?_)
    refine ih sound₅ (fun q led => ((arrives q led).grown grown).grown grown₅)
      (fun p entered => ((admits p entered).grown grown).grown grown₅) ?_
    rintro k few q r ⟨p, led, once⟩ row
    exact covers (k + 1) (Nat.succ_le_succ few) p r led (.cons once row)

/-- A piece in a loop is taken as often as the loop allows. -/
theorem makes_loop (makes : Makes content make course) (greedy : Bool) (least : Nat) (most : Option Nat)
    (takes : Bool) :
    Makes content (Piece.loop greedy least most takes make) fun p q =>
      ∃ n ≥ least, (∀ bound, most = some bound → n ≤ max least bound) ∧ Rounds course n p q := by
  unfold Piece.loop
  split
  · refine (makes_optional makes greedy).mono ?_
    rintro p q (rfl | once)
    · exact ⟨0, Nat.le_refl 0, fun bound _ => Nat.zero_le _, .nil q⟩
    · exact ⟨1, Nat.zero_le 1, fun bound same => by cases same; exact Nat.le_refl 1, .cons once (.nil q)⟩
  · exact (makes_star makes greedy takes).mono fun p q ⟨n, rounds⟩ =>
      ⟨n, Nat.zero_le n, fun bound none => (Option.not_mem_none bound none).elim, rounds⟩
  · exact (makes_plus makes greedy _).mono fun p q ⟨n, more, rounds⟩ =>
      ⟨n, more, fun bound none => (Option.not_mem_none bound none).elim, rounds⟩
  · rename_i bound _
    intro goal plan ends before sound
    refine Leads.bind ((makes_times makes least).leads sound before fun a plan₁ grown₁ enters sound₁ => ?_)
    split
    · refine .pure ⟨enters, sound₁.weaken fun q ⟨p, entered, rounds⟩ => ⟨p, entered, least, Nat.le_refl _, ?_, rounds⟩⟩
      exact fun bound _ => Nat.le_max_left _ _
    · let after : Point → Prop := fun q => ∃ p, before p ∧
        ∃ n ≥ least, (∀ most, some bound = some most → n ≤ max least most) ∧ Rounds course n p q
      refine Leads.bind (.pass sound₁ after fun target plan₂ grown₂ arrives sound₂ => ?_)
      refine leads_upTo makes greedy sound₂ arrives (fun p entered => (enters p entered).grown grown₂) ?_
      rintro k few q r ⟨p, entered, rounds⟩ more
      refine ⟨p, entered, least + k, Nat.le_add_right _ _, fun most same => ?_, Rounds.add rounds more⟩
      cases same
      omega

/-! ### One of several -/

/-- An option is entered from a fork and left for a target. -/
def Piece.joinOption (start target : Nat) (a : Piece) : Making Unit := do
  Making.link start a.first
  Making.link a.last target

/-- Options that are made and joined in turn. -/
def Piece.joinOptions (start target : Nat) : List (Making Piece) → Making Unit
  | [] => pure ()
  | make :: others => do
    Piece.joinOption start target (← make)
    joinOptions start target others

theorem choice_eq (make second : Making Piece) (others : List (Making Piece)) :
    Piece.choice (make :: second :: others) = (do
      let a ← make
      let b ← second
      let start ← Piece.fork false
      let target ← Making.add (.pass 0)
      Piece.joinOption start target a
      Piece.joinOption start target b
      Piece.joinOptions start target others
      return ⟨start, target⟩) := by
  have loop : ∀ start target, (forIn others PUnit.unit fun make _ => do
      let a ← make
      Making.link start a.first
      Making.link a.last target
      pure (ForInStep.yield PUnit.unit)) = Piece.joinOptions start target others := by
    intro start target
    induction others with
    | nil => rfl
    | cons make others ih =>
      simp only [List.forIn_cons, bind_assoc, pure_bind, ih, Piece.joinOptions, Piece.joinOption]
  unfold Piece.choice
  simp only [List.forIn_cons, List.forIn_nil, bind_assoc, pure_bind, Piece.joinOption, loop]

variable {makes : List (Making Piece)} {courses : List (Point → Point → Prop)} {start target : Nat}
  {before taken after : Point → Prop}

/-- An option that was made is joined, and then others are made and joined. The fork stays open until the last one. -/
theorem leads_joinOptions (all : List.Forall₂ (Makes content) makes courses) {a : Piece}
    (sound : Sound content goal plan ((a.last, taken) :: (start, before) :: (target, after) :: ends))
    (enters : ∀ p, before p → plan.Admits a.first p) (arrives : ∀ q, after q → plan.Admits target q)
    (exits : ∀ q, taken q → after q) (covers : ∀ course ∈ courses, ∀ p q, before p → course p q → after q)
    {post : Unit → Plan → Prop}
    (holds : ∀ plan', plan.Grown plan' → Sound content goal plan' ((target, after) :: ends) → post () plan') :
    Leads (do Piece.joinOption start target a; Piece.joinOptions start target makes) plan post := by
  induction all generalizing plan a taken with
  | nil =>
    refine Leads.bind (Leads.bind (.link sound before ((a.last, taken) :: (target, after) :: ends) (by simp) enters
      (by grind) (by grind) fun plan₁ grown₁ sound₁ => ?_))
    exact .link sound₁ taken ((target, after) :: ends) (by simp) (fun q led => (arrives q (exits q led)).grown grown₁)
      (by grind) (by grind) fun plan₂ grown₂ sound₂ => .pure (holds plan₂ (grown₁.trans grown₂) sound₂)
  | @cons make course makes courses first others ih =>
    refine Leads.bind (Leads.bind (.linkOn sound before (by simp) enters fun plan₁ grown₁ sound₁ => ?_))
    refine .link sound₁ taken ((start, before) :: (target, after) :: ends) (by simp)
      (fun q led => (arrives q (exits q led)).grown grown₁) (by grind) (by grind) fun plan₂ grown₂ sound₂ => ?_
    rw [Piece.joinOptions]
    refine Leads.bind (first.leads sound₂ before fun b plan₃ grown₃ enters₃ sound₃ => ?_)
    have grown := grown₁.trans (grown₂.trans grown₃)
    refine ih sound₃ enters₃ (fun q led => (arrives q led).grown grown) ?_
      (fun course member => covers course (List.mem_cons_of_mem _ member))
      fun plan₄ grown₄ => holds plan₄ (grown.trans grown₄)
    exact fun q ⟨p, entered, led⟩ => covers course (List.mem_cons_self ..) p q entered led

/-- A piece of options takes one of them. -/
theorem makes_choice (all : List.Forall₂ (Makes content) makes courses) :
    Makes content (Piece.choice makes) fun p q => ∃ course ∈ courses, course p q := by
  cases all with
  | nil =>
    exact (makes_ofOctets []).mono fun p q ⟨_, ⟨_, member, _⟩, _⟩ => (List.not_mem_nil member).elim
  | @cons make course makes courses first others =>
    cases others with
    | nil => exact first.mono fun p q led => ⟨course, List.mem_singleton_self course, led⟩
    | @cons second another makes courses next others =>
      rw [choice_eq]
      intro goal plan ends before sound
      let after : Point → Prop := fun q => ∃ p, before p ∧ ∃ any ∈ course :: another :: courses, any p q
      have covers : ∀ any ∈ course :: another :: courses, ∀ p q, before p → any p q → after q :=
        fun any member p q entered led => ⟨p, entered, any, member, led⟩
      refine Leads.bind (first.leads sound before fun a plan₁ grown₁ enters₁ sound₁ => ?_)
      refine Leads.bind (next.leads sound₁ before fun b plan₂ grown₂ enters₂ sound₂ => ?_)
      refine Leads.bind (.fork sound₂ before fun start plan₃ grown₃ starts sound₃ => ?_)
      refine Leads.bind (.pass sound₃ after fun target plan₄ grown₄ arrives sound₄ => ?_)
      have grown := grown₂.trans (grown₃.trans grown₄)
      refine Leads.bind (Leads.bind (.linkOn sound₄ before (by simp) (fun p entered => (enters₁ p entered).grown grown)
        fun plan₅ grown₅ sound₅ => ?_))
      refine .link sound₅ (fun q => ∃ p, before p ∧ course p q) ((b.last, fun q => ∃ p, before p ∧ another p q) ::
        (start, before) :: (target, after) :: ends) (by simp) ?_ (by grind) (by grind) fun plan₆ grown₆ sound₆ => ?_
      · rintro q ⟨p, entered, led⟩
        exact (arrives q (covers course (by simp) p q entered led)).grown grown₅
      have further := grown₃.trans (grown₄.trans (grown₅.trans grown₆))
      rw [← bind_assoc]
      refine Leads.bind (leads_joinOptions others sound₆ (fun p entered => (enters₂ p entered).grown further)
        (fun q led => ((arrives q led).grown grown₅).grown grown₆) ?_
        (fun any member => covers any (List.mem_cons_of_mem _ (List.mem_cons_of_mem _ member)))
        fun plan₇ grown₇ sound₇ => .pure ⟨fun p entered => ?_, sound₇⟩)
      · exact fun q ⟨p, entered, led⟩ => covers another (by simp) p q entered led
      · exact (starts p entered).grown (grown₄.trans (grown₅.trans (grown₆.trans grown₇)))

/-- The point with something bound to its place. -/
def Point.bind (p : Point) (slot : Nat) : Point := { p with slots := (slot, p.place?.getD 0) :: p.slots }

/-- A piece between two states that bind where it is entered and left. -/
theorem makes_group (makes : Makes content make course) (index : Nat) :
    Makes content (do
      let first ← Making.add (.save (2 * index) 0)
      let inner ← make
      let last ← Making.add (.save (2 * index + 1) 0)
      Making.link first inner.first
      Making.link inner.last last
      return ⟨first, last⟩) fun p q => ∃ r, course (p.bind (2 * index)) r ∧ q = r.bind (2 * index + 1) := by
  intro goal plan ends before sound
  let entered : Point → Prop := fun q => ∃ p, before p ∧ q = p.bind (2 * index)
  let within : Point → Prop := fun q => ∃ p, entered p ∧ course p q
  let after : Point → Prop := fun q => ∃ p, before p ∧ ∃ r, course (p.bind (2 * index)) r ∧ q = r.bind (2 * index + 1)
  refine Leads.bind (.add sound before entered (fun _ _ _ stays => by cases stays) (by simp) ?_
    fun first plan₁ grown₁ starts sound₁ => ?_)
  · intro p q here left
    cases left
    exact ⟨p, here, rfl⟩
  refine Leads.bind (makes.leads sound₁ entered fun inner plan₂ grown₂ enters sound₂ => ?_)
  refine Leads.bind (.add sound₂ within after (fun _ _ _ stays => by cases stays) (by simp) ?_
    fun last plan₃ grown₃ arrives sound₃ => ?_)
  · rintro r q ⟨_, ⟨p, here, rfl⟩, led⟩ left
    cases left
    exact ⟨p, here, r, led, rfl⟩
  refine Leads.bind (.link sound₃ entered ((last, after) :: (inner.last, within) :: ends) (by simp)
    (fun q here => (enters q here).grown grown₃) (by grind) (by grind) fun plan₄ grown₄ sound₄ => ?_)
  refine Leads.bind (.link sound₄ within ((last, after) :: ends) (by simp) (fun q led => (arrives q led).grown grown₄)
    (by grind) (by grind) fun plan₅ grown₅ sound₅ => .pure ⟨?_, sound₅⟩)
  exact fun p here => (starts p here).grown (grown₂.trans (grown₃.trans (grown₄.trans grown₅)))

end HttpExchange.Regex
