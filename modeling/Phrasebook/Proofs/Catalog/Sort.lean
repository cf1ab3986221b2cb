import Phrasebook.Catalog.Sort
import Phrasebook.Proofs.Catalog.Entries

namespace Phrasebook.Catalog

namespace CollationKey

open Std

theorem compareTexts_eq_compareLex (a b : List Char) :
    compareTexts a b = List.compareLex (compareOn Char.toNat) a b := by
  induction a generalizing b with
  | nil => cases b <;> rfl
  | cons x xs ih =>
    cases b with
    | nil => rfl
    | cons y ys =>
      rw [List.compareLex_cons_cons, compareTexts, ih]
      rfl

theorem compare_eq_compareLex : CollationKey.compare =
    compareLex (fun a b => compareTexts a.base b.base)
      (compareLex (fun a b => compareTexts a.folded b.folded)
        fun a b => compareTexts a.swapped b.swapped) := rfl

instance : TransCmp compareTexts := by
  have same : compareTexts = List.compareLex (compareOn Char.toNat) := by
    funext a b
    exact compareTexts_eq_compareLex a b
  rw [same]
  infer_instance

theorem transCmp_on {α : Type} (f : α → List Char) :
    TransCmp fun a b => compareTexts (f a) (f b) where
  eq_swap {a b} := by
    have swap : compareTexts (f a) (f b) = (compareTexts (f b) (f a)).swap := OrientedCmp.eq_swap
    exact swap
  isLE_trans {a b c} first second := by
    have both : (compareTexts (f a) (f c)).isLE = true := TransCmp.isLE_trans first second
    exact both

instance : TransCmp CollationKey.compare := by
  have base := transCmp_on CollationKey.base
  have folded := transCmp_on CollationKey.folded
  have swapped := transCmp_on CollationKey.swapped
  rw [compare_eq_compareLex]
  infer_instance

theorem le_trans {a b c : CollationKey} (first : a.le b = true) (second : b.le c = true) :
    a.le c = true := TransCmp.isLE_trans first second

theorem le_total (a b : CollationKey) : (a.le b || b.le a) = true := by
  have swap : b.compare a = (a.compare b).swap := OrientedCmp.eq_swap
  unfold le
  rw [swap]
  cases a.compare b <;> rfl

end CollationKey

def Ordered (entries : List Entry) : Prop :=
  entries.Pairwise fun a b => (collationKey a.1).le (collationKey b.1) = true

theorem ordered_sortEntries (entries : List Entry) : Ordered (sortEntries entries) := by
  unfold Ordered sortEntries
  rw [List.pairwise_map]
  let le := fun a b : CollationKey × Entry => a.1.le b.1
  have trans : ∀ a b c, le a b = true → le b c = true → le a c = true :=
    fun a b c => CollationKey.le_trans
  have total : ∀ a b, (le a b || le b a) = true := fun a b => CollationKey.le_total a.1 b.1
  have ordered := List.pairwise_mergeSort trans total
    (entries.map fun entry => (collationKey entry.1, entry))
  refine ordered.imp_of_mem fun {a b} ha hb h => ?_
  rw [List.mem_mergeSort, List.mem_map] at ha hb
  obtain ⟨_, _, rfl⟩ := ha
  obtain ⟨_, _, rfl⟩ := hb
  exact h

theorem sortEntries_of_ordered {entries : List Entry} (h : Ordered entries) :
    sortEntries entries = entries := by
  have keyed : (entries.map fun entry => (collationKey entry.1, entry)).Pairwise
      fun a b => a.1.le b.1 = true := List.pairwise_map.2 h
  rw [sortEntries, List.mergeSort_of_pairwise keyed, List.map_map]
  exact List.map_id entries

theorem sort_sort (catalog : Catalog) : catalog.sort.sort = catalog.sort :=
  ext (sortEntries_of_ordered (ordered_sortEntries catalog.entries))

theorem sort_if_idem (sorted : Bool) (catalog : Catalog) :
    (if sorted then (if sorted then catalog.sort else catalog).sort
      else if sorted then catalog.sort else catalog) =
      if sorted then catalog.sort else catalog := by
  cases sorted with
  | false => rfl
  | true => exact sort_sort catalog

theorem keys_sort_perm (catalog : Catalog) : catalog.sort.keys.Perm catalog.keys :=
  (sortEntries_perm catalog.entries).map Prod.fst

theorem get?_sort (catalog : Catalog) (key : String) : catalog.sort.get? key = catalog.get? key := by
  apply Option.ext
  intro text
  rw [get?_eq_some_iff, get?_eq_some_iff]
  exact (sortEntries_perm catalog.entries).mem_iff

end Phrasebook.Catalog
