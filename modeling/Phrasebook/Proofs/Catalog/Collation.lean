import Phrasebook.Proofs.Catalog.Sort
import Phrasebook.Proofs.Sorting
import Phrasebook.Proofs.Text.Case

namespace Phrasebook.Catalog

open Text

namespace CollationKey

theorem compareTexts_eq_lt_iff {a b : List Char} : compareTexts a b = .lt ↔ a < b := by
  induction a generalizing b with
  | nil => cases b <;> simp [compareTexts]
  | cons x xs ih =>
    cases b with
    | nil => simp [compareTexts]
    | cons y ys =>
      rw [compareTexts, Ordering.then_eq_lt, Nat.compare_eq_lt, Nat.compare_eq_eq, Char.toNat_inj, ih,
        List.cons_lt_cons_iff]
      rfl

theorem compareTexts_eq_eq_iff {a b : List Char} : compareTexts a b = .eq ↔ a = b := by
  induction a generalizing b with
  | nil => cases b <;> simp [compareTexts]
  | cons x xs ih =>
    cases b with
    | nil => simp [compareTexts]
    | cons y ys =>
      rw [compareTexts, Ordering.then_eq_eq, Nat.compare_eq_eq, Char.toNat_inj, ih, List.cons.injEq]

/-- Three texts taken one after the other, each by the code points of its characters. -/
def Precedes (a b : CollationKey) : Prop :=
  a.base < b.base ∨ a.base = b.base ∧
    (a.folded < b.folded ∨ a.folded = b.folded ∧ a.swapped < b.swapped)

theorem compare_eq_lt_iff {a b : CollationKey} : a.compare b = .lt ↔ a.Precedes b := by
  simp only [CollationKey.compare, Ordering.then_eq_lt, compareTexts_eq_lt_iff,
    compareTexts_eq_eq_iff, Precedes]

theorem compare_eq_eq_iff {a b : CollationKey} : a.compare b = .eq ↔ a = b := by
  simp only [CollationKey.compare, Ordering.then_eq_eq, compareTexts_eq_eq_iff]
  constructor
  · rintro ⟨base, folded, swapped⟩
    cases a
    cases b
    cases base
    cases folded
    cases swapped
    rfl
  · rintro rfl
    exact ⟨rfl, rfl, rfl⟩

theorem le_iff {a b : CollationKey} : a.le b = true ↔ a = b ∨ a.Precedes b := by
  rw [← compare_eq_eq_iff, ← compare_eq_lt_iff, le]
  cases a.compare b <;> simp

theorem Precedes.asymm {a b : CollationKey} (h : a.Precedes b) : ¬ b.Precedes a := by
  rw [← compare_eq_lt_iff] at h ⊢
  have swapped : b.compare a = (a.compare b).swap := Std.OrientedCmp.eq_swap
  rw [swapped, h]
  nofun

theorem le_antisymm {a b : CollationKey} (first : a.le b = true) (second : b.le a = true) : a = b := by
  rcases le_iff.1 first with equal | before
  · exact equal
  · rcases le_iff.1 second with equal | behind
    · exact equal.symm
    · exact absurd behind before.asymm

theorem precedes_ofText_iff {a b : List Char} (asciiA : IsAscii a) (asciiB : IsAscii b) :
    (ofText a).Precedes (ofText b) ↔
      a.map Char.toLower < b.map Char.toLower ∨
        a.map Char.toLower = b.map Char.toLower ∧ Case.SmallFirst a b := by
  have parts : ∀ text, IsAscii text → ofText text =
      ⟨text.map Char.toLower, text.map Char.toLower, text.map Case.exchange⟩ := by
    intro text ascii
    rw [ofText, BaseLetter.ofText_of_ascii ascii, Case.fold_of_ascii ascii, Case.swap_of_ascii ascii]
  rw [parts a asciiA, parts b asciiB, Precedes]
  dsimp only
  constructor
  · rintro (less | ⟨same, less | ⟨_, swapped⟩⟩)
    · exact .inl less
    · exact .inl less
    · exact .inr ⟨same, (Case.map_exchange_lt_iff same).1 swapped⟩
  · rintro (less | ⟨same, small⟩)
    · exact .inl less
    · exact .inr ⟨same, .inr ⟨same, (Case.map_exchange_lt_iff same).2 small⟩⟩

end CollationKey

theorem eq_of_collationKey_eq {a b : String} (restoredA : Case.AllRestored a.toList)
    (restoredB : Case.AllRestored b.toList) (h : collationKey a = collationKey b) : a = b :=
  String.toList_inj.1 (Case.eq_of_swap_eq restoredA restoredB (congrArg CollationKey.swapped h))

def Before (catalog : Catalog) (a b : String) : Prop := [a, b].Sublist catalog.keys

theorem before_or_before {catalog : Catalog} {a b : String} (memberA : a ∈ catalog.keys)
    (memberB : b ∈ catalog.keys) (other : a ≠ b) : catalog.Before a b ∨ catalog.Before b a := by
  unfold Before
  obtain ⟨front, back, keys⟩ := List.append_of_mem memberA
  rw [keys, List.mem_append, List.mem_cons] at memberB
  rw [keys]
  rcases memberB with member | same | member
  · exact .inr ((List.singleton_sublist.2 member).append
      (List.singleton_sublist.2 List.mem_cons_self))
  · exact absurd same.symm other
  · exact .inl (((List.singleton_sublist.2 member).cons_cons a).trans
      (List.sublist_append_right front (a :: back)))

theorem not_pair_sublist_of_nodup {keys : List String} (nodup : keys.Nodup) {a b : String}
    (h : [a, b].Sublist keys) : ¬ [b, a].Sublist keys := by
  induction keys with
  | nil => cases h
  | cons key keys ih =>
    rw [List.nodup_cons] at nodup
    rw [List.cons_sublist_cons', List.singleton_sublist] at h ⊢
    rcases h with inside | ⟨rfl, behind⟩
    · rintro (again | ⟨rfl, _⟩)
      · exact ih nodup.2 inside again
      · exact nodup.1 (inside.subset (by simp))
    · rintro (again | ⟨_, behind'⟩)
      · exact nodup.1 (again.subset (by simp))
      · exact nodup.1 behind'

theorem Before.asymm {catalog : Catalog} {a b : String} (h : catalog.Before a b) :
    ¬ catalog.Before b a := not_pair_sublist_of_nodup catalog.nodup h

theorem filter_sortEntries (entries : List Entry) (key : CollationKey) :
    ((sortEntries entries).filter fun entry => collationKey entry.1 = key) =
      entries.filter fun entry => collationKey entry.1 = key := by
  let keyed : Entry → CollationKey × Entry := fun entry => (collationKey entry.1, entry)
  let le := fun a b : CollationKey × Entry => a.1.le b.1
  have tied : ∀ a ∈ entries.map keyed, ∀ b ∈ entries.map keyed,
      decide (collationKey a.2.1 = key) = true → decide (collationKey b.2.1 = key) = true →
        le a b = true := by
    intro a memberA b memberB sharedA sharedB
    obtain ⟨_, _, rfl⟩ := List.mem_map.1 memberA
    obtain ⟨_, _, rfl⟩ := List.mem_map.1 memberB
    exact CollationKey.le_iff.2 (.inl ((of_decide_eq_true sharedA).trans (of_decide_eq_true sharedB).symm))
  have trans : ∀ a b c, le a b = true → le b c = true → le a c = true :=
    fun a b c => CollationKey.le_trans
  have total : ∀ a b, (le a b || le b a) = true := fun a b => CollationKey.le_total a.1 b.1
  have sorted := filter_mergeSort_of_tied trans total tied
  have entry : Prod.snd ∘ keyed = id := rfl
  rw [sortEntries, List.filter_map]
  refine (congrArg (List.map Prod.snd) sorted).trans ?_
  rw [List.filter_map, List.map_map, entry, List.map_id]
  rfl

theorem filter_keys_sort (catalog : Catalog) (key : CollationKey) :
    (catalog.sort.keys.filter fun other => collationKey other = key) =
      catalog.keys.filter fun other => collationKey other = key := by
  have entries := congrArg Entry.keys (filter_sortEntries catalog.entries key)
  rw [keys, keys, Entry.keys, Entry.keys, List.filter_map, List.filter_map]
  exact entries

theorem pair_sublist_filter_iff {keys : List String} {p : String → Bool} {a b : String}
    (keptA : p a = true) (keptB : p b = true) :
    [a, b].Sublist (keys.filter p) ↔ [a, b].Sublist keys := by
  constructor
  · exact fun inside => inside.trans List.filter_sublist
  · intro inside
    have kept := inside.filter p
    rwa [List.filter_cons_of_pos keptA, List.filter_cons_of_pos keptB, List.filter_nil] at kept

theorem before_sort_of_tie {catalog : Catalog} {a b : String} (tie : collationKey a = collationKey b) :
    catalog.sort.Before a b ↔ catalog.Before a b := by
  -- Both catalogs have one list of keys with this collation key, and a pair of them is a pair of it.
  let tied : String → Bool := fun other => collationKey other = collationKey b
  have tiedA : tied a = true := decide_eq_true tie
  have tiedB : tied b = true := decide_eq_true rfl
  calc [a, b].Sublist catalog.sort.keys
      ↔ [a, b].Sublist (catalog.sort.keys.filter tied) := (pair_sublist_filter_iff tiedA tiedB).symm
    _ ↔ [a, b].Sublist (catalog.keys.filter tied) := by rw [filter_keys_sort catalog (collationKey b)]
    _ ↔ [a, b].Sublist catalog.keys := pair_sublist_filter_iff tiedA tiedB

theorem le_of_before_sort {catalog : Catalog} {a b : String} (h : catalog.sort.Before a b) :
    (collationKey a).le (collationKey b) = true := by
  have ordered : catalog.sort.keys.Pairwise fun a b => (collationKey a).le (collationKey b) = true :=
    List.pairwise_map.2 (ordered_sortEntries catalog.entries)
  exact List.pairwise_iff_forall_sublist.1 ordered h

theorem before_sort_iff {catalog : Catalog} {a b : String} (memberA : a ∈ catalog.keys)
    (memberB : b ∈ catalog.keys) (apart : collationKey a ≠ collationKey b) :
    catalog.sort.Before a b ↔ (collationKey a).Precedes (collationKey b) := by
  constructor
  · intro before
    exact (CollationKey.le_iff.1 (le_of_before_sort before)).resolve_left apart
  · intro precedes
    have other : a ≠ b := fun same => apart (congrArg collationKey same)
    have inside := fun {key} => (keys_sort_perm catalog).mem_iff (a := key)
    rcases before_or_before (inside.2 memberA) (inside.2 memberB) other with before | behind
    · exact before
    · rcases CollationKey.le_iff.1 (le_of_before_sort behind) with tie | back
      · exact absurd tie.symm apart
      · exact absurd back precedes.asymm

theorem collationKey_eq_iff_of_ascii {a b : String} (asciiA : IsAscii a.toList)
    (asciiB : IsAscii b.toList) : collationKey a = collationKey b ↔ a = b := by
  constructor
  · exact eq_of_collationKey_eq (Case.allRestored_of_ascii asciiA) (Case.allRestored_of_ascii asciiB)
  · rintro rfl
    rfl

/-- A sorted catalog has the entries of the unsorted one in the order of their collation keys, and
    those that share one as they were; sorting it again changes nothing. Of two ASCII keys the first is
    the smaller one without regard to case, or else the one with the small letter where they differ. -/
theorem sort_arranges (catalog : Catalog) :
    catalog.sort.entries.Perm catalog.entries ∧
      (catalog.sort.keys.Pairwise fun a b =>
        collationKey a = collationKey b ∨ (collationKey a).Precedes (collationKey b)) ∧
      (∀ key, (catalog.sort.entries.filter fun entry => collationKey entry.1 = key) =
        catalog.entries.filter fun entry => collationKey entry.1 = key) ∧
      catalog.sort.sort = catalog.sort ∧
      ∀ a ∈ catalog.keys, ∀ b ∈ catalog.keys, a ≠ b → IsAscii a.toList → IsAscii b.toList →
        (catalog.sort.Before a b ↔
          a.toLower < b.toLower ∨ a.toLower = b.toLower ∧ Case.SmallFirst a.toList b.toList) := by
  refine ⟨sortEntries_perm catalog.entries, ?_, filter_sortEntries catalog.entries, sort_sort catalog, ?_⟩
  · exact List.pairwise_map.2 ((ordered_sortEntries catalog.entries).imp CollationKey.le_iff.1)
  · intro a memberA b memberB other asciiA asciiB
    have apart : collationKey a ≠ collationKey b :=
      fun tie => other ((collationKey_eq_iff_of_ascii asciiA asciiB).1 tie)
    rw [before_sort_iff memberA memberB apart, collationKey, collationKey,
      CollationKey.precedes_ofText_iff asciiA asciiB, String.lt_iff_toList_lt, ← String.toList_inj,
      String.toLower, String.toLower, String.toList_map, String.toList_map]

section

def letters : Catalog := ofList [("Bc", "1"), ("b", "2"), ("bC", "3"), ("é", "4"), ("a-", "5")]

/-- Where only the case differs, the key with the small letter comes first, although it is last in the
    unsorted catalog and has a capital behind. -/
theorem sort_arranges_letters :
    letters.sort.Before "bC" "Bc" ∧ letters.sort.Before "a-" "b" ∧ ¬ letters.sort.Before "bC" "b" := by
  obtain ⟨-, -, -, -, ascii⟩ := sort_arranges letters
  have capital : ("Bc" : String).toLower = "bc" := by cbv
  have inner : ("bC" : String).toLower = "bc" := by cbv
  have single : ("b" : String).toLower = "b" := by cbv
  have dash : ("a-" : String).toLower = "a-" := by cbv
  have small := ascii "bC" (by decide) "Bc" (by decide) (by decide) (by decide) (by decide)
  have shorter := ascii "a-" (by decide) "b" (by decide) (by decide) (by decide) (by decide)
  have longer := ascii "bC" (by decide) "b" (by decide) (by decide) (by decide) (by decide)
  rw [inner, capital] at small
  rw [dash, single] at shorter
  rw [inner, single] at longer
  refine ⟨small.2 (.inr ⟨rfl, [], 'b', 'B', ['C'], ['c'], by decide, by decide, by decide, by decide⟩),
    shorter.2 (.inl (by decide)), fun before => ?_⟩
  rcases longer.1 before with less | ⟨same, _⟩
  · exact absurd less (by decide)
  · exact absurd same (by decide)

end

end Phrasebook.Catalog
