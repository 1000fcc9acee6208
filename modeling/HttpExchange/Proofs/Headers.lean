import HttpExchange.Headers
import Mathlib

/-!
Header fields have distinct names. Setting a field keeps that, and headers with distinct names are exactly those
that come from setting fields one after the other.
-/
namespace HttpExchange.Headers
open Text (sameIgnoringCase sameIgnoringCase_comm sameIgnoringCase_trans sameIgnoringCase_self)

/-- No two fields carry the same name. -/
def Distinct (fields : List Field) : Prop := fields.Pairwise fun field later => ¬ named field.name later

instance : DecidablePred Distinct := fun _ => inferInstanceAs (Decidable (List.Pairwise _ _))

theorem named_comm (field other : Field) : named field.name other = named other.name field :=
  sameIgnoringCase_comm _ _

theorem named_self (field : Field) : named field.name field := sameIgnoringCase_self _

/-- Two names of one field are one name. -/
theorem named_congr {name : String} {field : Field} (same : named name field) (other : Field) :
    named name other = named field.name other := by
  unfold named at same ⊢
  rw [sameIgnoringCase_comm other.name name, sameIgnoringCase_comm other.name field.name,
    ← sameIgnoringCase_trans same]

/-- Headers that have one of two names of a field have the other. -/
theorem contains_congr {name : String} {field : Field} (same : named name field) (h : Headers) :
    h.contains field.name = h.contains name := by
  unfold contains
  exact congrArg h.fields.any (funext fun other => (named_congr same other).symm)

/-! ### Setting a field -/

/-- A new name comes last. -/
theorem put_of_new {new : Field} {fields : List Field} (none : ∀ field ∈ fields, ¬ named new.name field) :
    put new fields = fields ++ [new] := by
  induction fields with
  | nil => rfl
  | cons field rest ih =>
    rw [put, if_neg (none field (by simp)), ih fun later member => none later (by simp [member]), List.cons_append]

/-- Fields of other names stay in front. -/
theorem put_append_of_new (new : Field) {fields : List Field} (none : ∀ field ∈ fields, ¬ named new.name field)
    (more : List Field) : put new (fields ++ more) = fields ++ put new more := by
  induction fields with
  | nil => rfl
  | cons field rest ih =>
    rw [List.cons_append, put, if_neg (none field (by simp)), ih fun later member => none later (by simp [member]),
      List.cons_append]

/-- After setting a name there is one field of it. -/
theorem filter_named_put (new : Field) (fields : List Field) : (put new fields).filter (named new.name) = [new] := by
  induction fields with
  | nil => simp [put, named_self new]
  | cons field rest ih =>
    by_cases same : named new.name field
    · rw [put, if_pos same, List.filter_cons_of_pos (named_self new), List.filter_filter]
      simp
    · rw [put, if_neg same, List.filter_cons_of_neg same, ih]

/-- After setting a name there is the new field, and of the others those with other names. -/
theorem mem_put {new field : Field} {fields : List Field} (distinct : Distinct fields) :
    field ∈ put new fields ↔ field = new ∨ field ∈ fields ∧ ¬ named new.name field := by
  induction fields with
  | nil => simp [put]
  | cons first rest ih =>
    obtain ⟨apart, distinct⟩ := List.pairwise_cons.mp distinct
    by_cases same : named new.name first
    · rw [put, if_pos same]
      simp only [List.mem_cons, List.mem_filter, Bool.not_eq_true', ← Bool.not_eq_true]
      constructor
      · rintro (rfl | ⟨member, other⟩)
        · exact .inl rfl
        · exact .inr ⟨.inr member, other⟩
      · rintro (rfl | ⟨rfl | member, other⟩)
        · exact .inl rfl
        · exact absurd same other
        · exact .inr ⟨member, other⟩
    · rw [put, if_neg same, List.mem_cons, ih distinct, List.mem_cons]
      constructor
      · rintro (rfl | rfl | ⟨member, other⟩)
        · exact .inr ⟨.inl rfl, same⟩
        · exact .inl rfl
        · exact .inr ⟨.inr member, other⟩
      · rintro (rfl | ⟨rfl | member, other⟩)
        · exact .inr (.inl rfl)
        · exact .inl rfl
        · exact .inr (.inr ⟨member, other⟩)

theorem distinct_put {fields : List Field} (distinct : Distinct fields) (new : Field) :
    Distinct (put new fields) := by
  induction fields with
  | nil => exact List.pairwise_singleton ..
  | cons first rest ih =>
    obtain ⟨apart, distinct⟩ := List.pairwise_cons.mp distinct
    by_cases same : named new.name first
    · rw [put, if_pos same]
      refine List.pairwise_cons.mpr ⟨fun later member => ?_, distinct.filter _⟩
      simpa using (List.mem_filter.mp member).2
    · rw [put, if_neg same]
      refine List.pairwise_cons.mpr ⟨fun later member => ?_, ih distinct⟩
      rcases (mem_put distinct).mp member with rfl | ⟨old, -⟩
      · rwa [named_comm]
      · exact apart later old

/-- A name is found where it was set, in whatever letter case it is looked for. -/
theorem find?_put {new : Field} {name : String} (same : named name new) (fields : List Field) :
    (put new fields).find? (named name) = some new := by
  induction fields with
  | nil => simp [put, same]
  | cons first rest ih =>
    by_cases replaced : named new.name first
    · rw [put, if_pos replaced, List.find?_cons_of_pos same]
    · have other : ¬ named name first := by rwa [named_congr same]
      rw [put, if_neg replaced, List.find?_cons_of_neg other, ih]

theorem get?_set (h : Headers) (name value : String) : (h.set name value).get? name = some value := by
  rw [set, get?, find?_put (named_self ⟨name, value⟩), Option.map_some]

theorem distinct_set {h : Headers} (distinct : Distinct h.fields) (name value : String) :
    Distinct (h.set name value).fields := distinct_put distinct _

/-- A field of one name has no other name. -/
theorem not_named_of_named {name other : String} (apart : sameIgnoringCase name other = false) {field : Field}
    (same : named name field) : named other field = false := by
  rw [named, sameIgnoringCase_trans same, apart]

/-- Setting a name and leaving fields of other names out may change places. -/
theorem filter_put {p : Field → Bool} (new : Field) (kept : ∀ field, named new.name field → p field = true)
    (fields : List Field) : (put new fields).filter p = put new (fields.filter p) := by
  induction fields with
  | nil => simp [put, kept new (named_self new)]
  | cons first rest ih =>
    by_cases same : named new.name first
    · rw [put, if_pos same, List.filter_cons_of_pos (kept new (named_self new)), List.filter_cons_of_pos (kept first same),
        put, if_pos same, List.filter_filter, List.filter_filter]
      simp only [Bool.and_comm]
    · rw [put, if_neg same]
      by_cases stays : p first
      · rw [List.filter_cons_of_pos stays, List.filter_cons_of_pos stays, put, if_neg same, ih]
      · rw [List.filter_cons_of_neg stays, List.filter_cons_of_neg stays, ih]

/-- Setting a name does nothing to the fields that are left without it. -/
theorem filter_put_of_dropped {p : Field → Bool} (new : Field)
    (dropped : ∀ field, named new.name field → p field = false) (fields : List Field) :
    (put new fields).filter p = fields.filter p := by
  induction fields with
  | nil => simp [put, dropped new (named_self new)]
  | cons first rest ih =>
    by_cases same : named new.name first
    · have others : rest.filter p = (rest.filter fun later => !named new.name later).filter p := by
        rw [List.filter_filter]
        refine List.filter_congr fun field _ => ?_
        cases again : named new.name field with
        | false => simp
        | true => simp [dropped field again]
      rw [put, if_pos same, List.filter_cons_of_neg (by simp [dropped new (named_self new)]),
        List.filter_cons_of_neg (by simp [dropped first same]), ← others]
    · rw [put, if_neg same, List.filter_cons, List.filter_cons, ih]

/-- Setting a name leaves the value of every other one. -/
theorem get?_set_of_ne {name other : String} (apart : sameIgnoringCase name other = false) (h : Headers)
    (value : String) : (h.set name value).get? other = h.get? other := by
  have dropped : ∀ field, named name field → named other field = false := fun _ => not_named_of_named apart
  simp only [get?, ← List.head?_filter, set, filter_put_of_dropped ⟨name, value⟩ dropped]

/-- A name that is not among the fields is looked for in vain. -/
theorem get?_eq_none_iff {h : Headers} {name : String} : h.get? name = none ↔ h.contains name = false := by
  simp [get?, contains]

theorem contains_eq_isSome (h : Headers) (name : String) : h.contains name = (h.get? name).isSome := by
  cases found : h.get? name with
  | none => exact get?_eq_none_iff.mp found
  | some value =>
    rw [Option.isSome_some, ← Bool.not_eq_false, ← get?_eq_none_iff, found]
    exact nofun

/-- A name that was set in some letter case has the value. -/
theorem get?_set_of_named {name : String} {field : Field} (same : named name field) (h : Headers) :
    (h.set field.name field.value).get? name = some field.value := by
  rw [set, get?, find?_put same, Option.map_some]

/-! ### Setting fields in turn -/

theorem setAll_append (h : Headers) (fields more : List Field) :
    h.setAll (fields ++ more) = (h.setAll fields).setAll more := List.foldl_append

theorem ofList_append_singleton (fields : List Field) (field : Field) :
    ofList (fields ++ [field]) = (ofList fields).set field.name field.value := setAll_append empty fields [field]

theorem distinct_ofList (fields : List Field) : Distinct (ofList fields).fields := by
  induction fields using List.reverseRecOn with
  | nil => exact List.Pairwise.nil
  | append_singleton fields field ih =>
    rw [ofList_append_singleton]
    exact distinct_set ih _ _

/-- No field is there that was not set. -/
theorem mem_of_mem_ofList {fields : List Field} {field : Field} (member : field ∈ (ofList fields).fields) :
    field ∈ fields := by
  induction fields using List.reverseRecOn with
  | nil => exact member
  | append_singleton fields last ih =>
    rw [ofList_append_singleton, set, mem_put (distinct_ofList fields)] at member
    rcases member with rfl | ⟨earlier, -⟩
    · exact List.mem_concat_self
    · exact List.mem_append_left _ (ih earlier)

/-- Setting fields in turn makes the names there that they have. -/
theorem contains_ofList_iff {fields : List Field} {name : String} :
    (ofList fields).contains name ↔ ∃ field ∈ fields, named name field := by
  constructor
  · intro known
    obtain ⟨field, member, same⟩ := List.any_eq_true.mp known
    exact ⟨field, mem_of_mem_ofList member, same⟩
  · rintro ⟨field, member, same⟩
    induction fields using List.reverseRecOn with
    | nil => cases member
    | append_singleton fields last ih =>
      rw [ofList_append_singleton, contains_eq_isSome]
      by_cases again : named name last
      · rw [get?_set_of_named again]
        rfl
      · have earlier : field ∈ fields := by
          rcases List.mem_append.mp member with earlier | here
          · exact earlier
          · rw [List.mem_singleton.mp here] at same
            exact absurd same again
        rw [get?_set_of_ne (Bool.eq_false_iff.mpr again), ← contains_eq_isSome]
        exact ih earlier

/-- Fields with distinct names come out as they went in. -/
theorem ofList_of_distinct {fields : List Field} (distinct : Distinct fields) : ofList fields = ⟨fields⟩ := by
  induction fields using List.reverseRecOn with
  | nil => rfl
  | append_singleton fields field ih =>
    obtain ⟨before, -, apart⟩ := List.pairwise_append.mp distinct
    have new : ∀ other ∈ fields, ¬ named field.name other := by
      intro other member
      rw [named_comm]
      exact apart other member field (by simp)
    rw [ofList_append_singleton, ih before, set, put_of_new new]

/-- The headers that setting fields can make are those with distinct names. -/
theorem distinct_iff {h : Headers} : Distinct h.fields ↔ ∃ fields, h = ofList fields := by
  constructor
  · intro distinct
    exact ⟨h.fields, (ofList_of_distinct distinct).symm⟩
  · rintro ⟨fields, rfl⟩
    exact distinct_ofList fields

end HttpExchange.Headers
