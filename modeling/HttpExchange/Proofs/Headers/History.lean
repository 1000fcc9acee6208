import HttpExchange.Proofs.Headers

/-!
Headers as the history of their changes tells them. A name lives from the first time it is set after it was
removed last; the fields are those of the living names, in the order in which these came to live, each as it
was set last.
-/
namespace HttpExchange.Headers
open Text (asciiLower sameIgnoringCase sameIgnoringCase_comm sameIgnoringCase_trans)

/-- A change of headers. -/
inductive Change
  | set (field : Field)
  | remove (name : String)
  deriving Repr, DecidableEq

def Change.name : Change → String
  | set field => field.name
  | remove name => name

/-- The headers after a change. -/
def changed (h : Headers) : Change → Headers
  | .set field => h.set field.name field.value
  | .remove name => (h.remove name).2

/-- The headers after a history of changes, which begins without a field. -/
def after (history : List Change) : Headers := history.foldl changed empty

/-- The last change of a name set this field. -/
def LastSet (history : List Change) (name : String) (field : Field) : Prop :=
  ∃ before later, history = before ++ .set field :: later ∧ named name field ∧
    ∀ change ∈ later, ¬ sameIgnoringCase change.name name

/-- A name lives since the change of this number: it was not alive before, was set there, and was never removed
later. -/
def AliveSince (history : List Change) (name : String) (i : Nat) : Prop :=
  ∃ before first later, history = before ++ .set first :: later ∧ before.length = i ∧ named name first ∧
    (∀ field, ¬ LastSet before name field) ∧
      ∀ removed, .remove removed ∈ later → ¬ sameIgnoringCase removed name

/-! ### One change -/

section
variable {fields : List Field} {new : Field} {name : String}

/-- A name that is there is replaced in its place, and nothing else changes. -/
theorem put_of_known (distinct : Distinct fields) (known : ∃ field ∈ fields, named new.name field) :
    put new fields = fields.map fun field => if named new.name field then new else field := by
  induction fields with
  | nil => simp at known
  | cons first rest ih =>
    obtain ⟨apart, distinct⟩ := List.pairwise_cons.mp distinct
    by_cases same : named new.name first
    · -- No later field has the name, so dropping and replacing do the same there, which is nothing.
      have others : ∀ later ∈ rest, ¬ named new.name later := fun later member => by
        rw [named_congr same]
        exact apart later member
      have kept : rest.filter (fun later => !named new.name later) = rest :=
        List.filter_eq_self.mpr fun later member => by simpa using others later member
      have unchanged : (rest.map fun field => if named new.name field then new else field) = rest :=
        (List.map_congr_left fun later member => if_neg (others later member)).trans (List.map_id rest)
      rw [put, if_pos same, List.map_cons, if_pos same, kept, unchanged]
    · obtain ⟨field, member, found⟩ := known
      have later : field ∈ rest := (List.mem_cons.mp member).resolve_left fun here => same (here ▸ found)
      rw [put, if_neg same, List.map_cons, if_neg same, ih distinct ⟨field, later, found⟩]

theorem takeOut_eq (name : String) (fields : List Field) :
    takeOut name fields =
      ((fields.find? (named name)).map Field.value, fields.filter fun field => !named name field) := by
  induction fields with
  | nil => rfl
  | cons first rest ih =>
    rw [takeOut, ih]
    by_cases same : named name first
    · simp [same]
    · simp [same]

theorem remove_eq (h : Headers) (name : String) : h.remove name = (h.get? name, h.erase name) := by
  rw [remove, takeOut_eq, get?, erase]

theorem named_iff_of_same {other : String} (same : sameIgnoringCase name other) (field : Field) :
    named name field ↔ named other field := by
  rw [named, named, sameIgnoringCase_comm, sameIgnoringCase_trans same, sameIgnoringCase_comm]

end

/-! ### Histories -/

section
variable {history : List Change} {change : Change} {name other : String} {field first : Field} {i j : Nat}

theorem after_append (history more : List Change) : after (history ++ more) = more.foldl changed (after history) :=
  List.foldl_append

theorem not_lastSet_nil : ¬ LastSet [] name field := by
  rintro ⟨before, later, parts, -⟩
  simp at parts

/-- The last change of a history decides about its own name and about no other. -/
theorem lastSet_concat : LastSet (history ++ [change]) name field ↔
    (change = .set field ∧ named name field) ∨ (¬ sameIgnoringCase change.name name ∧ LastSet history name field) := by
  constructor
  · rintro ⟨before, later, parts, same, silent⟩
    rcases List.eq_nil_or_concat later with rfl | ⟨earlier, last, rfl⟩
    · obtain ⟨rfl, last⟩ := List.append_inj' parts rfl
      exact .inl ⟨List.singleton_inj.mp last, same⟩
    · rw [List.concat_eq_append, ← List.cons_append, ← List.append_assoc] at parts
      obtain ⟨rfl, last⟩ := List.append_inj' parts rfl
      obtain rfl := List.singleton_inj.mp last
      refine .inr ⟨silent change (by simp), before, earlier, rfl, same, fun other member => ?_⟩
      exact silent other (by simp [member])
  · rintro (⟨rfl, same⟩ | ⟨apart, before, later, rfl, same, silent⟩)
    · exact ⟨history, [], rfl, same, by simp⟩
    · refine ⟨before, later ++ [change], by simp, same, fun other member => ?_⟩
      rcases List.mem_append.mp member with earlier | last
      · exact silent other earlier
      · rwa [List.mem_singleton.mp last]

theorem LastSet.named (lastSet : LastSet history name field) : named name field := by
  obtain ⟨before, later, -, same, -⟩ := lastSet
  exact same

/-- A name stands for itself in every letter case. -/
theorem LastSet.congr (same : sameIgnoringCase name other) (lastSet : LastSet history name field) :
    LastSet history other field := by
  obtain ⟨before, later, parts, named, silent⟩ := lastSet
  refine ⟨before, later, parts, (named_iff_of_same same field).mp named, fun change member => ?_⟩
  rw [sameIgnoringCase_comm, ← sameIgnoringCase_trans same, sameIgnoringCase_comm]
  exact silent change member

theorem LastSet.own (lastSet : LastSet history name field) : LastSet history field.name field := by
  refine lastSet.congr ?_
  rw [sameIgnoringCase_comm]
  exact lastSet.named

theorem AliveSince.lt (alive : AliveSince history name i) : i < history.length := by
  obtain ⟨before, first, later, rfl, rfl, -⟩ := alive
  simp

theorem AliveSince.congr (same : sameIgnoringCase name other) (alive : AliveSince history name i) :
    AliveSince history other i := by
  obtain ⟨before, first, later, parts, place, named, new, kept⟩ := alive
  have back : sameIgnoringCase other name := by rwa [sameIgnoringCase_comm]
  refine ⟨before, first, later, parts, place, (named_iff_of_same same first).mp named, ?_, ?_⟩
  · intro field lastSet
    exact new field (lastSet.congr back)
  · intro removed member
    rw [sameIgnoringCase_comm, ← sameIgnoringCase_trans same, sameIgnoringCase_comm]
    exact kept removed member

/-- A name lives on unless it is removed. -/
theorem AliveSince.concat (alive : AliveSince history name i)
    (kept : ∀ removed, change = .remove removed → ¬ sameIgnoringCase removed name) :
    AliveSince (history ++ [change]) name i := by
  obtain ⟨before, first, later, rfl, place, named, new, earlier⟩ := alive
  refine ⟨before, first, later ++ [change], by simp, place, named, new, fun removed member => ?_⟩
  rcases List.mem_append.mp member with inside | last
  · exact earlier removed inside
  · exact kept removed (List.mem_singleton.mp last).symm

/-- A name that is not alive and is set comes to live. -/
theorem aliveSince_concat_of_new (new : ∀ field, ¬ LastSet history name field) (same : named name first) :
    AliveSince (history ++ [.set first]) name history.length :=
  ⟨history, first, [], rfl, rfl, same, new, by simp⟩

/-- Every living name came to live at some time. -/
theorem LastSet.exists_aliveSince (lastSet : LastSet history name field) : ∃ i, AliveSince history name i := by
  induction history using List.reverseRecOn generalizing field with
  | nil => exact absurd lastSet not_lastSet_nil
  | append_singleton history change ih =>
    by_cases known : ∃ earlier, LastSet history name earlier
    · obtain ⟨earlier, known⟩ := known
      obtain ⟨i, alive⟩ := ih known
      refine ⟨i, alive.concat fun removed taken => ?_⟩
      rcases lastSet_concat.mp lastSet with ⟨set, -⟩ | ⟨apart, -⟩
      · rw [taken] at set
        cases set
      · rwa [taken] at apart
    · rcases lastSet_concat.mp lastSet with ⟨rfl, same⟩ | ⟨-, earlier⟩
      · exact ⟨history.length, aliveSince_concat_of_new (fun field earlier => known ⟨field, earlier⟩) same⟩
      · exact absurd ⟨field, earlier⟩ known

/-- A name that was set and never removed later is alive. -/
theorem exists_lastSet {before later : List Change} (same : named name first)
    (kept : ∀ removed, .remove removed ∈ later → ¬ sameIgnoringCase removed name) :
    ∃ field, LastSet (before ++ .set first :: later) name field := by
  induction later using List.reverseRecOn with
  | nil => exact ⟨first, before, [], rfl, same, by simp⟩
  | append_singleton later change ih =>
    rw [← List.cons_append, ← List.append_assoc]
    by_cases concerns : sameIgnoringCase change.name name
    · cases change with
      | set field => exact ⟨field, lastSet_concat.mpr (.inl ⟨rfl, concerns⟩)⟩
      | remove removed => exact absurd concerns (kept removed (by simp))
    · obtain ⟨field, earlier⟩ := ih fun removed member => kept removed (by simp [member])
      exact ⟨field, lastSet_concat.mpr (.inr ⟨concerns, earlier⟩)⟩

/-- Of two times since which a name lives, neither is earlier. -/
theorem AliveSince.le (one : AliveSince history name i) (other : AliveSince history name j) : i ≤ j := by
  obtain ⟨before, first, later, rfl, rfl, -, new, -⟩ := one
  obtain ⟨earlier, second, rest, parts, rfl, same, -, kept⟩ := other
  by_contra less
  obtain ⟨between, whole, rest⟩ | ⟨between, whole, rest⟩ := List.append_eq_append_iff.mp parts
  · have sizes := congrArg List.length whole
    rw [List.length_append] at sizes
    omega
  · cases between with
    | nil =>
      rw [whole, List.append_nil] at less
      exact less le_rfl
    | cons change between =>
      rw [List.cons_append, List.cons.injEq] at rest
      obtain ⟨rfl, rfl⟩ := rest
      obtain ⟨field, lastSet⟩ : ∃ field, LastSet (earlier ++ .set second :: between) name field :=
        exists_lastSet same fun removed member => kept removed (by simp [member])
      exact new field (whole ▸ lastSet)

end

/-! ### What is there -/

/-- The fields are those of the living names, in the order in which these came to live. -/
structure Lists (history : List Change) (fields : List Field) : Prop where
  distinct : Distinct fields
  listed : ∀ field, field ∈ fields ↔ LastSet history field.name field
  ordered : fields.Pairwise fun field later =>
    ∃ i j, AliveSince history field.name i ∧ AliveSince history later.name j ∧ i < j

theorem lists_nil : Lists [] [] where
  distinct := List.Pairwise.nil
  listed field := by simp [not_lastSet_nil]
  ordered := List.Pairwise.nil

namespace Lists
variable {history : List Change} {fields : List Field}

/-- Setting a name replaces its field if it lives, else the name comes to live. -/
theorem set (lists : Lists history fields) (new : Field) : Lists (history ++ [.set new]) (put new fields) where
  distinct := distinct_put lists.distinct new
  listed field := by
    rw [mem_put lists.distinct, lastSet_concat, lists.listed, Change.set.injEq]
    constructor
    · rintro (rfl | ⟨earlier, apart⟩)
      · exact .inl ⟨rfl, named_self field⟩
      · refine .inr ⟨?_, earlier⟩
        rwa [named, sameIgnoringCase_comm] at apart
    · rintro (⟨rfl, -⟩ | ⟨apart, earlier⟩)
      · exact .inl rfl
      · refine .inr ⟨earlier, ?_⟩
        rwa [named, sameIgnoringCase_comm]
  ordered := by
    -- A name that lives keeps its time, and setting it cannot remove another one.
    have lives : ∀ {name i}, AliveSince history name i → AliveSince (history ++ [.set new]) name i :=
      fun alive => alive.concat fun removed same => by cases same
    by_cases known : ∃ field ∈ fields, named new.name field
    · rw [put_of_known lists.distinct known, List.pairwise_map]
      refine lists.ordered.imp fun {field later} earlier => ?_
      obtain ⟨i, j, alive, follows, before⟩ := earlier
      have onward : ∀ (field : Field) {i : Nat}, AliveSince history field.name i →
          AliveSince (history ++ [.set new]) (if named new.name field then new else field).name i := by
        intro field i alive
        by_cases same : named new.name field
        · rw [if_pos same]
          exact (lives alive).congr same
        · rw [if_neg same]
          exact lives alive
      exact ⟨i, j, onward field alive, onward later follows, before⟩
    · have absent : ∀ field ∈ fields, ¬ named new.name field := fun field member same => known ⟨field, member, same⟩
      have dead : ∀ field, ¬ LastSet history new.name field := fun field lastSet =>
        known ⟨field, (lists.listed field).mpr lastSet.own, lastSet.named⟩
      rw [put_of_new absent]
      refine List.pairwise_append.mpr ⟨?_, List.pairwise_singleton .., fun field member last same => ?_⟩
      · refine lists.ordered.imp fun earlier => ?_
        obtain ⟨i, j, alive, follows, before⟩ := earlier
        exact ⟨i, j, lives alive, lives follows, before⟩
      · obtain rfl := List.mem_singleton.mp same
        obtain ⟨i, alive⟩ := ((lists.listed field).mp member).exists_aliveSince
        exact ⟨i, history.length, lives alive, aliveSince_concat_of_new dead (named_self last), alive.lt⟩

/-- Removing a name leaves all others as they are. -/
theorem remove (lists : Lists history fields) (name : String) :
    Lists (history ++ [.remove name]) (fields.filter fun field => !named name field) where
  distinct := lists.distinct.filter _
  listed field := by
    rw [List.mem_filter, lastSet_concat, lists.listed, Bool.not_eq_true', ← Bool.not_eq_true, named,
      sameIgnoringCase_comm]
    simp only [reduceCtorEq, false_and, false_or, Change.name]
    exact and_comm
  ordered := by
    have kept : ∀ {field : Field} {i : Nat}, field ∈ fields.filter (fun field => !named name field) →
        AliveSince history field.name i → AliveSince (history ++ [.remove name]) field.name i := by
      intro field i member alive
      refine alive.concat fun removed taken => ?_
      cases taken
      have apart := (List.mem_filter.mp member).2
      rw [Bool.not_eq_true', ← Bool.not_eq_true, named, sameIgnoringCase_comm] at apart
      exact apart
    refine (lists.ordered.filter _).imp_of_mem fun {field later} inside within earlier => ?_
    obtain ⟨i, j, alive, follows, before⟩ := earlier
    exact ⟨i, j, kept inside alive, kept within follows, before⟩

end Lists

theorem lists_after (history : List Change) : Lists history (after history).fields := by
  induction history using List.reverseRecOn with
  | nil => exact lists_nil
  | append_singleton history change ih =>
    rw [after_append]
    cases change with
    | set field => exact ih.set field
    | remove name =>
      have left : (changed (after history) (.remove name)).fields =
          (after history).fields.filter fun field => !named name field := by
        rw [changed, remove_eq, erase]
      exact left ▸ ih.remove name

/-- What headers are and do that come from a history of changes. -/
structure Recounts (history : List Change) (h : Headers) : Prop where
  /-- No two fields have one name, in whatever letter case. -/
  distinct : Distinct h.fields
  /-- A name has the value that it was given last, unless it was removed after that. -/
  get? : ∀ name value, h.get? name = some value ↔ ∃ field, LastSet history name field ∧ field.value = value
  /-- A name is there if it has a value. -/
  contains : ∀ name, h.contains name = (h.get? name).isSome
  /-- There are as many fields as living names, a name being one in every letter case. -/
  size : h.size = {folded | ∃ name field, asciiLower name = folded ∧ LastSet history name field}.ncard
  /-- The fields are those of the living names, each with the spelling and the value of its last set. -/
  listed : ∀ field, field ∈ h.fields ↔ LastSet history field.name field
  /-- Every name that is listed came to live at some time. -/
  began : ∀ field ∈ h.fields, ∃ i, AliveSince history field.name i
  /-- The fields stand in the order in which their names came to live. -/
  ordered : h.fields.Pairwise fun field later =>
    ∀ i j, AliveSince history field.name i → AliveSince history later.name j → i < j
  /-- Removing a name gives the value that it had and leaves the other fields in their order. -/
  remove : ∀ name, (h.remove name).1 = h.get? name ∧
    (h.remove name).2.fields = h.fields.filter fun field => !named name field
  /-- Setting a name that is there replaces its field in its place and drops none; a new one comes last. -/
  set : ∀ name value, (h.set name value).fields =
    if h.contains name then h.fields.map fun field => if named name field then ⟨name, value⟩ else field
    else h.fields ++ [⟨name, value⟩]

theorem contains_iff {h : Headers} {name : String} : h.contains name ↔ ∃ field ∈ h.fields, named name field := by
  rw [contains, List.any_eq_true]

/-- Of the fields with distinct names, one has a given name at most. -/
theorem Distinct.eq_of_named {fields : List Field} (distinct : Distinct fields) {name : String} {field other : Field}
    (member : field ∈ fields) (also : other ∈ fields) (same : named name field) (again : named name other) :
    field = other := by
  by_contra differ
  have : Std.Symm fun field other : Field => ¬ named field.name other :=
    ⟨fun field other apart => by rwa [named_comm]⟩
  refine distinct.forall member also differ ?_
  rwa [← named_congr same]

namespace Lists
variable {history : List Change} {h : Headers}

theorem get?_iff (lists : Lists history h.fields) (name value : String) :
    h.get? name = some value ↔ ∃ field, LastSet history name field ∧ field.value = value := by
  rw [get?, Option.map_eq_some_iff]
  constructor
  · rintro ⟨field, found, rfl⟩
    have same : named name field := List.find?_some found
    exact ⟨field, ((lists.listed field).mp (List.mem_of_find?_eq_some found)).congr same, rfl⟩
  · rintro ⟨field, lastSet, rfl⟩
    have member := (lists.listed field).mpr lastSet.own
    obtain ⟨other, found⟩ : ∃ other, h.fields.find? (named name) = some other :=
      Option.isSome_iff_exists.mp (List.find?_isSome.mpr ⟨field, member, lastSet.named⟩)
    have same := lists.distinct.eq_of_named (List.mem_of_find?_eq_some found) member (List.find?_some found)
      lastSet.named
    exact ⟨other, found, congrArg Field.value same⟩

/-- The folded names of the fields are those of the living names, each once. -/
theorem size_eq (lists : Lists history h.fields) :
    h.size = {folded | ∃ name field, asciiLower name = folded ∧ LastSet history name field}.ncard := by
  let folded : Field → String := fun field => asciiLower field.name
  have once : (h.fields.map folded).Nodup := by
    refine List.pairwise_map.mpr (lists.distinct.imp fun {field later} apart same => apart ?_)
    rw [named, sameIgnoringCase, beq_iff_eq]
    exact same.symm
  have living : {key | ∃ name field, asciiLower name = key ∧ LastSet history name field} =
      ((h.fields.map folded).toFinset : Set String) := by
    ext key
    simp only [Set.mem_ofPred_eq, List.coe_toFinset, List.mem_map]
    constructor
    · rintro ⟨name, field, rfl, lastSet⟩
      have same := lastSet.named
      rw [named, sameIgnoringCase, beq_iff_eq] at same
      exact ⟨field, (lists.listed field).mpr lastSet.own, same⟩
    · rintro ⟨field, member, rfl⟩
      exact ⟨field.name, field, rfl, (lists.listed field).mp member⟩
  rw [living, Set.ncard_coe_finset, List.toFinset_card_of_nodup once, List.length_map, size]

theorem recounts (lists : Lists history h.fields) : Recounts history h where
  distinct := lists.distinct
  get? := lists.get?_iff
  contains name := contains_eq_isSome h name
  size := lists.size_eq
  listed := lists.listed
  began field member := ((lists.listed field).mp member).exists_aliveSince
  ordered := by
    refine lists.ordered.imp fun {field later} earlier i j alive follows => ?_
    obtain ⟨first, second, since, sinceThen, before⟩ := earlier
    have := alive.le since
    have := sinceThen.le follows
    omega
  remove name := by
    rw [remove_eq, erase]
    exact ⟨rfl, rfl⟩
  set name value := by
    rw [Headers.set]
    by_cases known : h.contains name
    · rw [if_pos known]
      exact put_of_known lists.distinct (contains_iff.mp known)
    · rw [if_neg known]
      exact put_of_new fun field member same => known (contains_iff.mpr ⟨field, member, same⟩)

end Lists

/-- Fields that are set one after the other are a history like any other. -/
theorem ofList_eq_after (fields : List Field) : ofList fields = after (fields.map .set) := by
  rw [ofList, setAll, after, List.foldl_map]
  rfl

/-- Whatever is set and removed, and in whatever order, beginning without a field or from a list of them: the
headers are what their history tells. -/
theorem after_recounts : (∀ history, Recounts history (after history)) ∧
    ∀ fields more, Recounts (fields.map .set ++ more) (more.foldl changed (ofList fields)) := by
  have recounts : ∀ history, Recounts history (after history) := fun history => (lists_after history).recounts
  refine ⟨recounts, fun fields more => ?_⟩
  rw [ofList_eq_after, ← after_append]
  exact recounts _

/-- A name that was removed and set again stands last, and a letter case changes with the value. -/
example : (after [.set ⟨"Host", "a"⟩, .set ⟨"Accept", "b"⟩, .set ⟨"HOST", "c"⟩, .remove "accept",
    .set ⟨"Via", "d"⟩, .set ⟨"accept", "e"⟩]).fields = [⟨"HOST", "c"⟩, ⟨"Via", "d"⟩, ⟨"accept", "e"⟩] := by
  decide +kernel

end HttpExchange.Headers
