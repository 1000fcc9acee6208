import Mathlib.Data.List.Perm.Basic

/-!
One entry of a list in the place of another, or one more behind the others. What is gathered from all entries
changes by what these two give.
-/
namespace HttpExchange.Replacement
variable {α β : Type} {entries : List α} {i : Nat} {old : α}

theorem perm_set (found : entries[i]? = some old) (new : α) :
    ∃ others, entries.Perm (old :: others) ∧ (entries.set i new).Perm (new :: others) := by
  obtain ⟨inside, rfl⟩ := List.getElem?_eq_some_iff.mp found
  exact ⟨entries.eraseIdx i, (List.getElem_cons_eraseIdx_perm inside).symm, List.set_perm_cons_eraseIdx inside new⟩

theorem set_cases {j : Nat} {new entry : α} (found : (entries.set i new)[j]? = some entry) :
    (j = i ∧ entry = new) ∨ (j ≠ i ∧ entries[j]? = some entry) := by
  by_cases here : i = j
  · subst here
    rw [List.getElem?_set_self'] at found
    obtain ⟨_, -, rfl⟩ := Option.map_eq_some_iff.mp found
    exact .inl ⟨rfl, rfl⟩
  · rw [List.getElem?_set_ne here] at found
    exact .inr ⟨Ne.symm here, found⟩

theorem concat_cases {j : Nat} {new entry : α} (found : (entries ++ [new])[j]? = some entry) :
    (j < entries.length ∧ entries[j]? = some entry) ∨ (j = entries.length ∧ entry = new) := by
  by_cases inside : j < entries.length
  · rw [List.getElem?_append_left inside] at found
    exact .inl ⟨inside, found⟩
  · rw [List.getElem?_append_right (by omega), List.getElem?_singleton] at found
    split at found
    · cases found
      exact .inr ⟨by omega, rfl⟩
    · cases found

theorem concat_eq_append_cons_iff {before after : List α} {last here : α} :
    entries ++ [last] = before ++ here :: after ↔
      (before = entries ∧ here = last ∧ after = []) ∨
        ∃ rest, after = rest ++ [last] ∧ entries = before ++ here :: rest := by
  constructor
  · intro same
    rcases List.eq_nil_or_concat' after with rfl | ⟨rest, final, rfl⟩
    · obtain ⟨rfl, one⟩ := List.append_inj' same rfl
      exact .inl ⟨rfl, (List.singleton_inj.mp one).symm, rfl⟩
    · have regrouped : entries ++ [last] = (before ++ here :: rest) ++ [final] := by simpa using same
      obtain ⟨rfl, one⟩ := List.append_inj' regrouped rfl
      obtain rfl := List.singleton_inj.mp one
      exact .inr ⟨rest, rfl, rfl⟩
  · rintro (⟨rfl, rfl, rfl⟩ | ⟨rest, rfl, rfl⟩)
    · rfl
    · rw [List.append_assoc, List.cons_append]

theorem concat_eq_append_cons {before after : List α} {last here : α}
    (same : entries ++ [last] = before ++ here :: after) :
    (before = entries ∧ here = last) ∨ ∃ rest, entries = before ++ here :: rest := by
  rcases concat_eq_append_cons_iff.mp same with ⟨rfl, rfl, -⟩ | ⟨rest, -, shorter⟩
  · exact .inl ⟨rfl, rfl⟩
  · exact .inr ⟨rest, shorter⟩

theorem set_replicate_append_drop {count : Nat} (inside : count < entries.length) (new : α) :
    (List.replicate count new ++ entries.drop count).set count new =
      List.replicate (count + 1) new ++ entries.drop (count + 1) := by
  rw [List.set_append_right _ _ (by simp), List.drop_eq_getElem_cons inside, List.length_replicate, Nat.sub_self,
    List.set_cons_zero, List.replicate_succ', List.append_assoc, List.singleton_append]

theorem flatMap_set (found : entries[i]? = some old) (new : α) (gather : α → List β) :
    (gather old ++ (entries.set i new).flatMap gather).Perm (gather new ++ entries.flatMap gather) := by
  obtain ⟨others, before, after⟩ := perm_set found new
  have gathered := (after.flatMap_right gather).append_left (gather old)
  have previous := (before.flatMap_right gather).append_left (gather new)
  rw [List.flatMap_cons] at gathered previous
  exact gathered.trans ((List.perm_append_comm_assoc ..).trans previous.symm)

theorem countP_set (found : entries[i]? = some old) (new : α) (counts : α → Bool) :
    (entries.set i new).countP counts + (if counts old then 1 else 0) =
      entries.countP counts + if counts new then 1 else 0 := by
  obtain ⟨others, before, after⟩ := perm_set found new
  rw [before.countP_eq, after.countP_eq, List.countP_cons, List.countP_cons]
  omega

/-- If an entry is related to what replaces it, so is every entry to what stands in its place. -/
theorem set_related {R : α → α → Prop} (refl : ∀ entry, R entry entry) (found : entries[i]? = some old) {new : α}
    (related : R old new) {j : Nat} {entry : α} (there : entries[j]? = some entry) :
    ∃ later, (entries.set i new)[j]? = some later ∧ R entry later := by
  by_cases same : i = j
  · subst same
    obtain rfl := Option.some.inj (found.symm.trans there)
    obtain ⟨inside, -⟩ := List.getElem?_eq_some_iff.mp found
    exact ⟨new, List.getElem?_set_self inside, related⟩
  · exact ⟨entry, (List.getElem?_set_ne same).trans there, refl entry⟩

theorem modify_related {R : α → α → Prop} (refl : ∀ entry, R entry entry) {change : α → α}
    (related : ∀ entry, R entry (change entry)) (i : Nat) {j : Nat} {entry : α} (there : entries[j]? = some entry) :
    ∃ later, (entries.modify i change)[j]? = some later ∧ R entry later := by
  rw [List.getElem?_modify, there]
  refine ⟨_, rfl, ?_⟩
  split
  · exact related entry
  · exact refl entry

end HttpExchange.Replacement
