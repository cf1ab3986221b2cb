import Phrasebook.Proofs.Catalog.Marking
import Phrasebook.Proofs.Catalog.Sort

namespace Phrasebook.Catalog

def MarksApart (options : ReconcileOptions) (source : Catalog) : Prop :=
  ¬ (options.replaceUntranslated = true ∧ options.validateParams = true) ∨
    ∀ key ∈ source.keys, isMarked key = false

structure Settled (options : ReconcileOptions) (source catalog : Catalog) : Prop where
  reconciled : reconcile options source catalog = catalog
  sorted : catalog.sort = catalog

theorem MarksApart.not_relapses {options : ReconcileOptions} {source : Catalog}
    (apart : MarksApart options source) {key : String} (h : key ∈ source.keys)
    (text existing : String) : ¬ Relapses options key text existing := by
  intro relapses
  rcases apart with apart | unmarked
  · exact apart ⟨relapses.replaces, relapses.validates⟩
  · have plain := unmarked key h
    rw [relapses.becomes, (isMarked_iff _).2 (marker_isPrefix_mark existing)] at plain
    cases plain

theorem mem_keys_reconcile {options : ReconcileOptions} {source target : Catalog} {key : String}
    (h : key ∈ source.keys) : key ∈ (reconcile options source target).keys := by
  have inside : source.get? key ≠ none := fun absent => get?_eq_none_iff.1 absent h
  cases hs : source.get? key with
  | none => exact absurd hs inside
  | some text =>
    have found := get?_reconcile options source target key
    rw [hs] at found
    cases ht : target.get? key <;> rw [ht] at found <;> exact mem_keys_of_get? found

theorem mem_source_of_flush {options : ReconcileOptions} {source target : Catalog}
    (flush : options.flush = true) {key : String} (h : key ∈ (reconcile options source target).keys) :
    key ∈ source.keys := by
  have found := get?_reconcile options source target key
  cases hs : source.get? key with
  | some text => exact mem_keys_of_get? hs
  | none =>
    simp only [hs, flush, if_true] at found
    exact absurd h (get?_eq_none_iff.1 found)

theorem entries_reconcile_of_keys {options : ReconcileOptions} {source target : Catalog}
    (all : ∀ key ∈ source.keys, key ∈ target.keys)
    (used : options.flush = true → ∀ key ∈ target.keys, key ∈ source.keys) :
    (reconcile options source target).entries =
      target.entries.map (reconciledEntry options source.entries) := by
  have kept : (target.entries.filter fun entry => options.flush → entry.1 ∈ source.keys) =
      target.entries := by
    rw [List.filter_eq_self]
    intro entry member
    exact decide_eq_true fun flush => used flush _ (Entry.mem_keys_of_mem member)
  have added : (source.entries.filter fun entry => entry.1 ∉ target.keys) = [] := by
    rw [List.filter_eq_nil_iff]
    intro entry member
    simpa using all _ (Entry.mem_keys_of_mem member)
  rw [entries_reconcile, kept, added, List.append_nil]

/-- A catalog is left as it is if it has the keys it should, and every text is as it should be. -/
theorem reconcile_eq_self {options : ReconcileOptions} {source target : Catalog}
    (all : ∀ key ∈ source.keys, key ∈ target.keys)
    (used : options.flush = true → ∀ key ∈ target.keys, key ∈ source.keys)
    (texts : ∀ key text existing, source.get? key = some text → target.get? key = some existing →
      reconciledText options key text existing = existing) :
    reconcile options source target = target := by
  apply ext
  rw [entries_reconcile_of_keys all used]
  refine (List.map_congr_left fun entry member => ?_).trans (List.map_id' _)
  unfold reconciledEntry
  split
  · rename_i text found
    rw [texts entry.1 text entry.2 found (get?_of_mem member)]
  · rfl

theorem mem_keys_sort {catalog : Catalog} {key : String} :
    key ∈ catalog.sort.keys ↔ key ∈ catalog.keys := (keys_sort_perm catalog).mem_iff

theorem settled_sort_reconcile {options : ReconcileOptions} {source : Catalog}
    (apart : MarksApart options source) (target : Catalog) :
    Settled options source (reconcile options source target).sort := by
  refine ⟨reconcile_eq_self (fun key h => mem_keys_sort.2 (mem_keys_reconcile h))
    (fun flush key h => mem_source_of_flush flush (mem_keys_sort.1 h))
    (fun key text existing hs ht => ?_), sort_sort _⟩
  · rw [get?_sort, get?_reconcile, hs] at ht
    cases hold : target.get? key with
    | none =>
      rw [hold] at ht
      cases ht
      exact reconciledText_self options key text
    | some before =>
      rw [hold] at ht
      cases ht
      exact reconciledText_again (apart.not_relapses (mem_keys_of_get? hs) text before)

section

variable {source other : Catalog} (same : other.entries.Perm source.entries)

include same

theorem mem_keys_of_perm {key : String} : key ∈ other.keys ↔ key ∈ source.keys :=
  (same.map Prod.fst).mem_iff

theorem get?_of_perm (key : String) : other.get? key = source.get? key := by
  apply Option.ext
  intro text
  rw [get?_eq_some_iff, get?_eq_some_iff]
  exact same.mem_iff

theorem Settled.of_perm {options : ReconcileOptions} {catalog : Catalog}
    (h : Settled options source catalog) : Settled options other catalog := by
  have texts := fun key => get?_reconcile options source catalog key
  rw [h.reconciled] at texts
  refine ⟨reconcile_eq_self (fun key member => ?_) (fun flush key member => ?_)
    (fun key text existing hs ht => ?_), h.sorted⟩
  · rw [← h.reconciled]
    exact mem_keys_reconcile ((mem_keys_of_perm same).1 member)
  · rw [mem_keys_of_perm same]
    cases hs : source.get? key with
    | some text => exact mem_keys_of_get? hs
    | none =>
      have gone := texts key
      simp only [hs, flush, if_true] at gone
      exact absurd member (get?_eq_none_iff.1 gone)
  · rw [get?_of_perm same] at hs
    have kept := texts key
    simp only [hs, ht, Option.some.injEq] at kept
    exact kept.symm

theorem reconcile_of_perm (options : ReconcileOptions) : reconcile options source other = other := by
  refine reconcile_eq_self (fun key => (mem_keys_of_perm same).2)
    (fun _ key => (mem_keys_of_perm same).1) (fun key text existing hs ht => ?_)
  rw [get?_of_perm same, hs] at ht
  cases ht
  exact reconciledText_self options key text

end

theorem reconcile_empty (options : ReconcileOptions) (source : Catalog) :
    reconcile options source empty = source := by
  apply ext
  rw [entries_reconcile]
  have added : (source.entries.filter fun entry => entry.1 ∉ empty.keys) = source.entries := by
    rw [List.filter_eq_self]
    intro entry _
    simp [empty, keys, Entry.keys]
  rw [added]
  rfl

theorem reconciledEntry_default (source : List Entry) (entry : Entry) :
    reconciledEntry .default source entry = entry := by
  unfold reconciledEntry
  split
  · simp [reconciledText, ReconcileOptions.default]
  · rfl

theorem entries_reconcile_default (source target : Catalog) :
    (reconcile .default source target).entries =
      target.entries ++ source.entries.filter fun entry => entry.1 ∉ target.keys := by
  have kept : (target.entries.filter fun entry =>
      ReconcileOptions.default.flush → entry.1 ∈ source.keys) = target.entries := by
    rw [List.filter_eq_self]
    exact fun _ _ => decide_eq_true nofun
  rw [entries_reconcile, kept, List.map_congr_left fun entry _ => reconciledEntry_default _ entry,
    List.map_id']

theorem reconcile_default_eq_self {source target : Catalog}
    (all : ∀ key ∈ source.keys, key ∈ target.keys) : reconcile .default source target = target := by
  have nothing : (source.entries.filter fun entry => entry.1 ∉ target.keys) = [] := by
    rw [List.filter_eq_nil_iff]
    intro entry member
    simpa using all _ (Entry.mem_keys_of_mem member)
  apply ext
  rw [entries_reconcile_default, nothing, List.append_nil]

end Phrasebook.Catalog
