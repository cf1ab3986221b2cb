import Phrasebook.Proofs.Catalog.Reconcile

namespace Phrasebook

theorem Entry.lookup_put (key text : String) (entries : List Entry) (other : String) :
    (put key text entries).lookup other = if other = key then some text else entries.lookup other := by
  induction entries with
  | nil => by_cases same : other = key <;> simp [put, List.lookup, same]
  | cons entry rest ih =>
    by_cases here : entry.1 = key
    · by_cases same : other = key
      · simp [put, here, same]
      · have apart : (other == key) = false := by simpa using same
        simp [put, here, same, List.lookup, apart]
    · have passed : (entry.1 == key) = false := by simpa using here
      rw [put, passed, if_neg Bool.false_ne_true, List.lookup, List.lookup, ih]
      by_cases found : other = entry.1
      · simp [found, here]
      · have apart : (other == entry.1) = false := by simpa using found
        simp [apart]

namespace Catalog

theorem keys_insert (catalog : Catalog) (key text : String) :
    (catalog.insert key text).keys =
      if key ∈ catalog.keys then catalog.keys else catalog.keys ++ [key] :=
  Entry.keys_put key text catalog.entries

theorem get?_insert (catalog : Catalog) (key text other : String) :
    (catalog.insert key text).get? other = if other = key then some text else catalog.get? other :=
  Entry.lookup_put key text catalog.entries other

theorem ofList_concat (entries : List Entry) (entry : Entry) :
    ofList (entries ++ [entry]) = (ofList entries).insert entry.1 entry.2 := by
  rw [ofList, List.foldl_append]
  rfl

theorem keys_ofList (entries : List Entry) : (ofList entries).keys = (Entry.keys entries).eraseDups := by
  induction entries using List.reverseRecOn with
  | nil => rfl
  | append_singleton entries entry ih =>
    have single : Entry.keys [entry] = [entry.1] := rfl
    rw [ofList_concat, keys_insert, ih, Entry.keys_append, single, List.eraseDups_append, List.removeAll]
    by_cases seen : entry.1 ∈ Entry.keys entries <;> simp [seen, List.eraseDups_cons]

theorem get?_ofList (entries : List Entry) (key : String) :
    (ofList entries).get? key = entries.reverse.lookup key := by
  induction entries using List.reverseRecOn with
  | nil => rfl
  | append_singleton entries entry ih =>
    rw [ofList_concat, get?_insert, ih, List.reverse_append, List.reverse_singleton, List.singleton_append]
    by_cases here : key = entry.1
    · simp [here, List.lookup]
    · have apart : (key == entry.1) = false := by simpa using here
      simp [here, List.lookup, apart]

theorem lookup_reverse_entries (catalog : Catalog) (key : String) :
    catalog.entries.reverse.lookup key = catalog.get? key := by
  rw [← get?_ofList, ofList_entries]

theorem merge_eq_ofList (sources : List Catalog) : merge sources = ofList (sources.flatMap entries) := by
  rw [ofList, List.foldl_flatMap]
  rfl

theorem keys_merge (sources : List Catalog) :
    (merge sources).keys = (sources.flatMap keys).eraseDups := by
  rw [merge_eq_ofList, keys_ofList, Entry.keys, List.map_flatMap]
  rfl

theorem get?_merge (sources : List Catalog) (key : String) :
    (merge sources).get? key = sources.reverse.findSome? (·.get? key) := by
  rw [merge_eq_ofList, get?_ofList]
  induction sources using List.reverseRecOn with
  | nil => rfl
  | append_singleton sources source ih =>
    rw [List.flatMap_append, List.flatMap_singleton, List.reverse_append, List.lookup_append, ih,
      lookup_reverse_entries, List.reverse_append, List.reverse_singleton, List.singleton_append,
      List.findSome?_cons]
    cases source.get? key <;> rfl

theorem get?_reconcile_default (source target : Catalog) (key : String) :
    (reconcile .default source target).get? key = (target.get? key).or (source.get? key) := by
  rw [get?_reconcile]
  cases source.get? key <;> cases target.get? key <;> rfl

theorem get?_foldr_reconcile_default (sources : List Catalog) (target : Catalog) (key : String) :
    (sources.foldr (reconcile .default) target).get? key =
      (target.get? key).or (sources.reverse.findSome? (·.get? key)) := by
  -- The first source is reconciled with last, so it is asked only when all others have no text.
  induction sources with
  | nil => simp
  | cons source sources ih =>
    rw [List.foldr_cons, get?_reconcile_default, ih, Option.or_assoc, List.reverse_cons,
      List.findSome?_append, List.findSome?_singleton]

/-- Reconciling with several sources is reconciling with one that has each of their keys at its first
    place and with its last text. By default the texts are those that come of reconciling with the
    sources one after the other, beginning with the last. -/
theorem reconcileAll_merged (sources : List Catalog) :
    ∃ merged : Catalog,
      merged.keys = (sources.flatMap keys).eraseDups ∧
      (∀ key, merged.get? key = sources.reverse.findSome? (·.get? key)) ∧
      (∀ options target,
        reconcileAll options sources target = reconcileFully options merged target) ∧
      ∀ target key, (reconcileAll .default sources target).result.get? key =
        (sources.foldr (reconcile .default) target).get? key := by
  refine ⟨merge sources, keys_merge sources, get?_merge sources, fun _ _ => rfl, fun target key => ?_⟩
  have together : (reconcileAll .default sources target).result.get? key =
      (target.get? key).or ((merge sources).get? key) := get?_reconcile_default _ target key
  rw [together, get?_merge, get?_foldr_reconcile_default]

end Catalog

end Phrasebook
