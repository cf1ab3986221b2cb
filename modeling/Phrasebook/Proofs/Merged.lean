import Mathlib.Algebra.BigOperators.Group.List.Lemmas
import Mathlib.Algebra.GroupWithZero.Nat
import Phrasebook.Proofs.Firsts

namespace Phrasebook

def Item.occurrence (item : Item) : Occurrence := ⟨item.file, item.line, item.column⟩

theorem Item.params_eq_nil {item : Item} (h : item.hasParams = false) : item.params = [] := by
  simpa [item.hasParams_eq] using h

namespace Merged

theorem ext_params {a b : Merged} (keys : a.key = b.key) (places : a.occurrences = b.occurrences)
    (params : a.params = b.params) : a = b := by
  cases a
  cases b
  simp_all

theorem occurrences_add (merged : Merged) (item : Item) :
    (merged.add item).occurrences = merged.occurrences ++ [item.occurrence] := by
  unfold add takeParams
  split <;> rfl

theorem params_add (merged : Merged) (item : Item) :
    (merged.add item).params = if merged.params.isEmpty then item.params else merged.params := by
  have taken : (merged.add item).params =
      if item.hasParams && !merged.hasParams then item.params else merged.params :=
    apply_ite Merged.params _ _ _
  rw [taken, merged.hasParams_eq]
  cases empty : merged.params.isEmpty with
  | false => simp
  | true =>
    cases own : item.hasParams with
    | true => simp
    | false => simp [Item.params_eq_nil own, List.isEmpty_iff.1 empty]

def firstParams (items : List Item) (key : Wording) : List Wording :=
  ((items.find? fun item => item.key == key && item.hasParams).map (·.params)).getD []

def group (items : List Item) (key : Wording) : Merged where
  key := key
  occurrences := (items.filter (·.key == key)).map Item.occurrence
  hasParams := !(firstParams items key).isEmpty
  params := firstParams items key
  hasParams_eq := rfl

theorem map_key_group (items : List Item) (keys : List Wording) :
    (keys.map (group items)).map (·.key) = keys := by
  rw [List.map_map]
  exact List.map_id'' (fun _ => rfl) _

theorem group_of_not_mem {items : List Item} {key : Wording} (h : key ∉ items.map (·.key)) :
    group items key = start key := by
  have other : ∀ item ∈ items, (item.key == key) = false := by
    intro item member
    rw [beq_eq_false_iff_ne]
    exact fun same => h (List.mem_map.2 ⟨item, member, same⟩)
  have params : firstParams items key = [] := by
    rw [firstParams, List.find?_eq_none.2]
    · rfl
    · intro item member
      simp [other item member]
  have places : items.filter (·.key == key) = [] := by
    rw [List.filter_eq_nil_iff]
    intro item member
    simp [other item member]
  refine ext_params rfl ?_ params
  exact congrArg (List.map Item.occurrence) places

theorem group_concat_of_ne {items : List Item} {item : Item} {key : Wording} (other : item.key ≠ key) :
    group (items ++ [item]) key = group items key := by
  have unlike : (item.key == key) = false := by simpa using other
  simp [group, firstParams, List.find?_append, unlike]

theorem firstParams_concat_self (items : List Item) (item : Item) :
    firstParams (items ++ [item]) item.key =
      if (firstParams items item.key).isEmpty then item.params else firstParams items item.key := by
  rw [firstParams, firstParams, List.find?_append]
  cases found : items.find? fun other => other.key == item.key && other.hasParams with
  | some first =>
    have facts := List.find?_some found
    have some' : first.params.isEmpty = false := by
      simpa [first.hasParams_eq] using (Bool.and_eq_true_iff.1 facts).2
    simp [some']
  | none =>
    cases params : item.hasParams with
    | true => simp [params]
    | false => simp [params, Item.params_eq_nil params]

theorem group_concat_self (items : List Item) (item : Item) :
    group (items ++ [item]) item.key = (group items item.key).add item := by
  have places : (items ++ [item]).filter (·.key == item.key) =
      items.filter (·.key == item.key) ++ [item] := by
    simp [List.filter_append]
  refine ext_params ?_ ?_ ?_
  · rw [key_add]
    rfl
  · rw [occurrences_add, group, places, List.map_append]
    rfl
  · rw [params_add]
    exact firstParams_concat_self items item

def groups (items : List Item) : List Merged :=
  (firstOccurrences (items.map (·.key))).map (group items)

theorem insert_groups (items : List Item) (item : Item) :
    insert (groups items) item = groups (items ++ [item]) := by
  have seen : (groups items).any (·.key == item.key) = true ↔
      item.key ∈ firstOccurrences (items.map (·.key)) := by
    rw [← map_key_group items (firstOccurrences _), ← groups]
    simp only [List.any_eq_true, beq_iff_eq, List.mem_map]
  rw [insert, groups, groups, List.map_append, List.map_singleton, firstOccurrences_concat]
  rw [groups] at seen
  simp only [seen]
  by_cases known : item.key ∈ firstOccurrences (items.map (·.key))
  · rw [if_pos known, if_pos known, List.map_map]
    apply List.map_congr_left
    intro key _
    by_cases same : item.key = key
    · subst same
      rw [group_concat_self]
      exact if_pos (beq_self_eq_true _)
    · rw [group_concat_of_ne same]
      exact if_neg (by simpa [group] using fun equal => same equal.symm)
  · have fresh : item.key ∉ items.map (·.key) := fun member =>
      known (mem_firstOccurrences_iff.2 member)
    rw [if_neg known, if_neg known, List.map_append, List.map_singleton, group_concat_self,
      group_of_not_mem fresh]
    congr 1
    apply List.map_congr_left
    intro key member
    have other : item.key ≠ key := fun same => known (same ▸ member)
    exact (group_concat_of_ne other).symm

theorem ofItems_eq (items : List Item) : ofItems items = groups items := by
  induction items using List.reverseRecOn with
  | nil => rfl
  | append_singleton items item ih =>
    rw [← insert_groups, ← ih, ofItems, List.foldl_append]
    rfl

theorem length_filter_key (items : List Item) (key : Wording) :
    (items.filter (·.key == key)).length = (items.map (·.key)).count key := by
  rw [List.count, List.countP_map, List.countP_eq_length_filter]
  rfl

theorem sum_occurrences (items : List Item) :
    ((ofItems items).map (·.occurrences.length)).sum = items.length := by
  let keys := items.map (·.key)
  have counts : (ofItems items).map (·.occurrences.length) =
      (firstOccurrences keys).map fun key => keys.count key := by
    rw [ofItems_eq, groups, List.map_map]
    apply List.map_congr_left
    intro key _
    rw [Function.comp_apply, group, List.length_map, length_filter_key]
  have reordered : (firstOccurrences keys).Perm keys.dedup := by
    refine (List.perm_ext_iff_of_nodup (nodup_firstOccurrences keys) (List.nodup_dedup keys)).2 ?_
    intro key
    rw [mem_firstOccurrences_iff, List.mem_dedup]
  calc ((ofItems items).map (·.occurrences.length)).sum
      = ((firstOccurrences keys).map fun key => keys.count key).sum := by rw [counts]
    _ = (keys.dedup.map fun key => keys.count key).sum := (reordered.map _).sum_eq
    _ = keys.length := by
      rw [show (List.instBEq : BEq Wording) = instBEqOfDecidableEq from lawful_beq_subsingleton _ _]
      exact List.sum_map_count_dedup_eq_length keys
    _ = items.length := List.length_map _

/-- What it takes for entries to account for items. -/
structure Accounts (items : List Item) (merged : List Merged) : Prop where
  distinct : (merged.map (·.key)).Nodup
  keys : ∀ key, key ∈ merged.map (·.key) ↔ key ∈ items.map (·.key)
  ordered : (merged.map (·.key)).Pairwise fun a b =>
    (items.map (·.key)).idxOf a < (items.map (·.key)).idxOf b
  occurrences : ∀ m ∈ merged, m.occurrences = (items.filter (·.key == m.key)).map fun item =>
    ⟨item.file, item.line, item.column⟩
  total : (merged.map (·.occurrences.length)).sum = items.length
  hasParams : ∀ m ∈ merged, m.hasParams = true ↔
    ∃ item ∈ items, item.key = m.key ∧ item.hasParams = true
  params : ∀ m ∈ merged, ∀ item,
    items.find? (fun item => item.key == m.key && item.hasParams) = some item → m.params = item.params

theorem accounts_ofItems (items : List Item) : Accounts items (ofItems items) := by
  have keys : (ofItems items).map (·.key) = firstOccurrences (items.map (·.key)) := by
    rw [ofItems_eq, groups, map_key_group]
  have grouped : ∀ m ∈ ofItems items, m = group items m.key := by
    intro m member
    rw [ofItems_eq] at member
    obtain ⟨key, _, rfl⟩ := List.mem_map.1 member
    rfl
  have params : ∀ m ∈ ofItems items, m.params = firstParams items m.key := by
    intro m member
    exact congrArg Merged.params (grouped m member)
  refine ⟨?_, ?_, ?_, ?_, sum_occurrences items, ?_, ?_⟩
  · rw [keys]
    exact nodup_firstOccurrences _
  · intro key
    rw [keys, mem_firstOccurrences_iff]
  · rw [keys]
    exact pairwise_firstOccurrences _
  · intro m member
    exact congrArg Merged.occurrences (grouped m member)
  · intro m member
    rw [m.hasParams_eq, params m member, firstParams]
    cases found : items.find? fun item => item.key == m.key && item.hasParams with
    | none =>
      rw [List.find?_eq_none] at found
      simpa using found
    | some first =>
      have facts := List.find?_some found
      have inside := List.mem_of_find?_eq_some found
      simp only [Bool.and_eq_true, beq_iff_eq] at facts
      have some' := facts.2
      rw [first.hasParams_eq] at some'
      simp only [Option.map_some, Option.getD_some, some', true_iff]
      exact ⟨first, inside, facts⟩
  · intro m member item found
    rw [params m member, firstParams, found]
    rfl

end Merged

end Phrasebook
