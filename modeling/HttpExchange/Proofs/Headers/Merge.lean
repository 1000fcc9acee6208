import HttpExchange.Proofs.Headers.History

/-!
Fields that are set over headers. Each takes the place of the field of its name, and those with names that are new
follow in their order.
-/
namespace HttpExchange.Headers
open Text (sameIgnoringCase)

/-- The field that comes in the place of another when fields are set over it: the one of its name, or itself. -/
def overridden (own : List Field) (field : Field) : Field := (own.find? (named field.name)).getD field

section
variable {own : List Field} {first field : Field} {h : Headers} {name : String}

theorem overridden_cons_of_named (same : named first.name field) : overridden (first :: own) field = first := by
  rw [named_comm] at same
  rw [overridden, List.find?_cons_of_pos same, Option.getD_some]

theorem overridden_cons_of_ne (apart : ¬ named first.name field) :
    overridden (first :: own) field = overridden own field := by
  rw [named_comm] at apart
  rw [overridden, overridden, List.find?_cons_of_neg apart]

theorem overridden_of_new (new : ∀ later ∈ own, ¬ named field.name later) : overridden own field = field := by
  have none : own.find? (named field.name) = .none := List.find?_eq_none.mpr new
  rw [overridden, none, Option.getD_none]

theorem fields_set (distinct : Distinct h.fields) (field : Field) :
    (h.set field.name field.value).fields =
      if h.contains field.name then h.fields.map fun other => if named field.name other then field else other
      else h.fields ++ [field] := by
  rw [set]
  by_cases known : h.contains field.name
  · rw [if_pos known]
    exact put_of_known distinct (contains_iff.mp known)
  · rw [if_neg known]
    exact put_of_new fun other member same => known (contains_iff.mpr ⟨other, member, same⟩)

theorem contains_set_of_ne (apart : ¬ named name field) (h : Headers) :
    (h.set field.name field.value).contains name = h.contains name := by
  rw [contains_eq_isSome, contains_eq_isSome, get?_set_of_ne (Bool.eq_false_iff.mpr apart)]

theorem distinct_setAll (distinct : Distinct h.fields) (own : List Field) : Distinct (h.setAll own).fields := by
  induction own generalizing h with
  | nil => exact distinct
  | cons first rest ih => exact ih (distinct_set distinct _ _)

/-- Fields of other names go their ways when a name is set. -/
theorem map_overridden_set (distinct : Distinct h.fields) (apart : ∀ later ∈ own, ¬ named first.name later) :
    (h.set first.name first.value).fields.map (overridden own) =
      h.fields.map (overridden (first :: own)) ++ if h.contains first.name then [] else [first] := by
  have itself : overridden own first = first := overridden_of_new apart
  rw [fields_set distinct]
  by_cases known : h.contains first.name
  · rw [if_pos known, if_pos known, List.append_nil, List.map_map]
    refine List.map_congr_left fun field _ => ?_
    by_cases same : named first.name field
    · rw [Function.comp, if_pos same, itself, overridden_cons_of_named same]
    · rw [Function.comp, if_neg same, overridden_cons_of_ne same]
  · rw [if_neg known, if_neg known, List.map_append, List.map_singleton, itself]
    congr 1
    refine List.map_congr_left fun field member => ?_
    have new : ¬ named first.name field := fun same => known (contains_iff.mpr ⟨field, member, same⟩)
    exact (overridden_cons_of_ne new).symm

/-- Fields with distinct names come in the places of those of their names, and behind them if their names are new. -/
theorem fields_setAll (distinct : Distinct h.fields) (ownDistinct : Distinct own) :
    (h.setAll own).fields = h.fields.map (overridden own) ++ own.filter fun field => !h.contains field.name := by
  induction own generalizing h with
  | nil =>
    have same : overridden [] = id := funext fun field => rfl
    rw [same, List.map_id, List.filter_nil, List.append_nil]
    rfl
  | cons first rest ih =>
    obtain ⟨apart, restDistinct⟩ := List.pairwise_cons.mp ownDistinct
    have others : (rest.filter fun field => !(h.set first.name first.value).contains field.name) =
        rest.filter fun field => !h.contains field.name := by
      refine List.filter_congr fun field member => ?_
      have other : ¬ named field.name first := by
        rw [named_comm]
        exact apart field member
      rw [contains_set_of_ne other]
    have onward : h.setAll (first :: rest) = (h.set first.name first.value).setAll rest := rfl
    rw [onward, ih (distinct_set distinct _ _) restDistinct, map_overridden_set distinct apart, others,
      List.append_assoc]
    congr 1
    by_cases known : h.contains first.name
    · simp [known]
    · simp [known]

/-- A name has the value that is set for it last, else the one that it had. -/
theorem get?_setAll (ownDistinct : Distinct own) (h : Headers) (name : String) :
    (h.setAll own).get? name = (get? ⟨own⟩ name).or (h.get? name) := by
  induction own generalizing h with
  | nil => rfl
  | cons first rest ih =>
    obtain ⟨apart, restDistinct⟩ := List.pairwise_cons.mp ownDistinct
    have onward : h.setAll (first :: rest) = (h.set first.name first.value).setAll rest := rfl
    rw [onward, ih restDistinct]
    by_cases same : named name first
    · have none : get? ⟨rest⟩ name = .none := by
        rw [get?, List.find?_eq_none.mpr, Option.map_none]
        intro later member again
        rw [named_congr same] at again
        exact apart later member again
      have found : get? ⟨first :: rest⟩ name = some first.value := by
        rw [get?, List.find?_cons_of_pos same, Option.map_some]
      rw [none, found, get?_set_of_named same]
      rfl
    · have skipped : get? ⟨first :: rest⟩ name = get? ⟨rest⟩ name := by
        rw [get?, List.find?_cons_of_neg same]
        rfl
      rw [skipped, get?_set_of_ne (Bool.eq_false_iff.mpr same)]

theorem contains_setAll (ownDistinct : Distinct own) (h : Headers) (name : String) :
    (h.setAll own).contains name = (contains ⟨own⟩ name || h.contains name) := by
  rw [contains_eq_isSome, contains_eq_isSome, contains_eq_isSome, get?_setAll ownDistinct, Option.isSome_or]

end

end HttpExchange.Headers
