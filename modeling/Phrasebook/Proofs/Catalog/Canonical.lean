import Phrasebook.Proofs.Catalog.Collation
import Phrasebook.Proofs.Catalog.File
import Phrasebook.Proofs.Catalog.Settled

namespace Phrasebook.Catalog

open Text

/-- Keys that share a collation key stand in the same order in both catalogs. -/
def TiesAgree (first second : Catalog) : Prop :=
  ∀ a ∈ first.keys, ∀ b ∈ first.keys, collationKey a = collationKey b →
    (first.Before a b ↔ second.Before a b)

theorem tiesAgree_of_sort_eq {first second : Catalog} (h : first.sort = second.sort) :
    TiesAgree first second := by
  intro a _ b _ tie
  rw [← before_sort_of_tie tie, h, before_sort_of_tie tie]

theorem tiesAgree_of_restored {first : Catalog}
    (restored : ∀ key ∈ first.keys, Case.AllRestored key.toList) (second : Catalog) :
    TiesAgree first second := by
  intro a memberA b memberB tie
  have equal := eq_of_collationKey_eq (restored a memberA) (restored b memberB) tie
  subst equal
  have never : ∀ catalog : Catalog, ¬ catalog.Before a a := fun catalog before => before.asymm before
  exact iff_of_false (never first) (never second)

def Arranged (catalog : Catalog) (x y : Entry) : Prop :=
  (collationKey x.1).le (collationKey y.1) = true ∧
    (collationKey x.1 = collationKey y.1 → catalog.Before x.1 y.1)

theorem Arranged.key_eq {catalog : Catalog} {x y : Entry} (forth : catalog.Arranged x y)
    (back : catalog.Arranged y x) : x.1 = y.1 := by
  have tie := CollationKey.le_antisymm forth.1 back.1
  exact absurd (back.2 tie.symm) (forth.2 tie).asymm

theorem pairwise_arranged_sort (catalog : Catalog) :
    catalog.sort.entries.Pairwise catalog.Arranged := by
  rw [List.pairwise_iff_forall_sublist]
  intro x y inside
  have before : catalog.sort.Before x.1 y.1 := inside.map Prod.fst
  exact ⟨le_of_before_sort before, fun tie => (before_sort_of_tie tie).1 before⟩

section

variable {first second : Catalog} (same : second.entries.Perm first.entries)

include same

theorem TiesAgree.pairwise_arranged (agree : TiesAgree first second) :
    second.sort.entries.Pairwise first.Arranged := by
  have known : ∀ entry ∈ second.sort.entries, entry.1 ∈ first.keys := by
    intro entry member
    rw [← mem_keys_of_perm same, ← mem_keys_sort]
    exact Entry.mem_keys_of_mem member
  refine (pairwise_arranged_sort second).imp_of_mem fun {x y} memberX memberY arranged => ?_
  refine ⟨arranged.1, fun tie => ?_⟩
  exact (agree x.1 (known x memberX) y.1 (known y memberY) tie).2 (arranged.2 tie)

theorem sort_eq_of_tiesAgree (agree : TiesAgree first second) : first.sort = second.sort := by
  have entries : second.sort.entries.Perm first.sort.entries :=
    ((sortEntries_perm second.entries).trans same).trans (sortEntries_perm first.entries).symm
  -- One entry cannot be arranged both before and after another, so only one order is left.
  have distinct : ∀ x y, x ∈ first.sort.entries → y ∈ second.sort.entries →
      first.Arranged x y → first.Arranged y x → x = y := by
    intro x y memberX memberY forth back
    have key := forth.key_eq back
    have textX := get?_of_mem memberX
    rw [key, get?_of_mem (entries.subset memberY)] at textX
    exact Prod.ext key (Option.some.inj textX).symm
  exact ext (List.Perm.eq_of_pairwise distinct (pairwise_arranged_sort first)
    (agree.pairwise_arranged same) entries.symm)

end

theorem write_sorted_congr {first second : Catalog} (h : first.sort = second.sort) (tree : Tree)
    (path : String) (pretty : Bool) :
    write tree path true pretty first = write tree path true pretty second := by
  rw [write, write, fileText, fileText, if_pos rfl, if_pos rfl, h]

theorem sort_eq_of_write_eq {first second : Catalog} {tree : Tree} {path : String} {pretty : Bool}
    (writable : tree.Writable (Path.ofText path))
    (h : write tree path true pretty first = write tree path true pretty second) :
    first.sort = second.sort := by
  obtain ⟨after, written⟩ := exists_write_iff.2 writable
  have readFirst := read_of_holds (Tree.holds_of_write (write_eq_ok_iff.1 written))
  rw [h] at written
  have readSecond := read_of_holds (Tree.holds_of_write (write_eq_ok_iff.1 written))
  rw [readFirst] at readSecond
  exact Except.ok.inj readSecond

/-- Two catalogs with the same entries in different orders are sorted into one, and written sorted as
    the same bytes, exactly if the keys that share a collation key stand in the same order in both.
    Different keys share one only if some character of theirs does not get its case back. -/
theorem sort_eq_sort_iff {first second : Catalog} (same : second.entries.Perm first.entries) :
    (first.sort = second.sort ↔ TiesAgree first second) ∧
      (∀ tree path pretty, tree.Writable (Path.ofText path) →
        (write tree path true pretty first = write tree path true pretty second ↔
          TiesAgree first second)) ∧
      ∀ a b : String, Case.AllRestored a.toList → Case.AllRestored b.toList →
        collationKey a = collationKey b → a = b := by
  have sorted : first.sort = second.sort ↔ TiesAgree first second :=
    ⟨tiesAgree_of_sort_eq, sort_eq_of_tiesAgree same⟩
  refine ⟨sorted, fun tree path pretty writable => ?_, fun a b => eq_of_collationKey_eq⟩
  rw [← sorted]
  exact ⟨sort_eq_of_write_eq writable, fun h => write_sorted_congr h tree path pretty⟩

section

def resumes : Catalog := ofList [("Résumé", "1"), ("résumé", "2"), ("resume", "3")]

def resumesReversed : Catalog := ofList [("resume", "3"), ("résumé", "2"), ("Résumé", "1")]

theorem sort_eq_sort_iff_resumes :
    resumes.sort = resumesReversed.sort ∧
      write Tree.empty "fr.json" true true resumes =
        write Tree.empty "fr.json" true true resumesReversed := by
  have same : resumesReversed.entries.Perm resumes.entries := by decide
  obtain ⟨sorted, written, -⟩ := sort_eq_sort_iff same
  have agree : TiesAgree resumes resumesReversed :=
    tiesAgree_of_restored (List.forall_iff_forall_mem.1 (by decide +kernel)) resumesReversed
  have writable : Tree.empty.Writable (Path.ofText "fr.json") :=
    ⟨by decide, by unfold Tree.Unblocked; decide, by decide⟩
  exact ⟨sorted.2 agree, (written Tree.empty "fr.json" true writable).2 agree⟩

def streets : Catalog := ofList [("Straße", "rue"), ("Strasse", "rue")]

def streetsReversed : Catalog := ofList [("Strasse", "rue"), ("Straße", "rue")]

/-- Two keys with one collation key: sorted, each stands where it stood. -/
theorem sort_streets_ne :
    streetsReversed.entries.Perm streets.entries ∧
      collationKey "Straße" = collationKey "Strasse" ∧ streets.sort ≠ streetsReversed.sort ∧
      streets.fileText true true ≠ streetsReversed.fileText true true := by
  have kept : streets.sort = streets := ext (sortEntries_of_ordered (by unfold Ordered; decide +kernel))
  have keptReversed : streetsReversed.sort = streetsReversed :=
    ext (sortEntries_of_ordered (by unfold Ordered; decide +kernel))
  refine ⟨by decide, by decide +kernel, ?_, ?_⟩
  · rw [kept, keptReversed]
    decide
  · rw [fileText, fileText, if_pos rfl, if_pos rfl, kept, keptReversed]
    decide +kernel

end

end Phrasebook.Catalog
