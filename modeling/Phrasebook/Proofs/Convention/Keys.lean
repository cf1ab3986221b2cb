import Mathlib.Data.Finset.Lattice.Lemmas
import Phrasebook.Proofs.Convention.Dialect

namespace Phrasebook.Dialect

section

variable {dialect dialect' : Dialect} {names names' : List String} {file : String}
  {document part : List Char} {start : Nat}

theorem keys_subset_of_patterns
    (more : dialect.patterns (names.map (·.toList)) ⊆ dialect'.patterns (names'.map (·.toList))) :
    dialect.keys names file document start part ⊆ dialect'.keys names' file document start part := by
  intro key found
  obtain ⟨filled, pattern, member, inside⟩ := mem_keys_iff.1 found
  exact mem_keys_iff.2 ⟨filled, pattern, more member, inside⟩

theorem flatMap_subset {α β : Type} {few more : List α} (included : few ⊆ more) (f : α → List β) :
    few.flatMap f ⊆ more.flatMap f := by
  intro b member
  obtain ⟨a, inside, made⟩ := List.mem_flatMap.1 member
  exact List.mem_flatMap.2 ⟨a, included inside, made⟩

theorem patterns_subset_of_names (convention : Convention) {names names' : List (List Char)}
    (more : names ⊆ names') : convention.patterns names ⊆ convention.patterns names' := by
  cases convention with
  | wrapped => exact flatMap_subset more _
  | doubleWrapped => exact flatMap_subset more _
  | bare => exact flatMap_subset more _
  | method => exact flatMap_subset more _
  | block => exact List.Subset.refl _
  | directive => exact List.Subset.refl _

theorem keys_subset_of_names (dialect : Dialect) (more : names ⊆ names') :
    dialect.keys names file document start part ⊆ dialect.keys names' file document start part := by
  refine keys_subset_of_patterns fun pattern member => ?_
  obtain ⟨convention, follows, tried⟩ := List.mem_flatMap.1 member
  exact List.mem_flatMap.2
    ⟨convention, follows, patterns_subset_of_names convention (List.map_subset _ more) tried⟩

theorem mem_conventions_template_iff (convention : Convention) :
    convention ∈ template.conventions ↔ convention ∈ svelte.conventions ∨ convention ∈ vue.conventions := by
  cases convention <;> decide

theorem mem_patterns_template_iff {names : List (List Char)} {pattern : Convention.Pattern} :
    pattern ∈ template.patterns names ↔ pattern ∈ svelte.patterns names ∨ pattern ∈ vue.patterns names := by
  simp only [patterns, List.mem_flatMap, mem_conventions_template_iff, or_and_right, exists_or]

theorem script_patterns_subset (names : List (List Char)) : script.patterns names ⊆ svelte.patterns names :=
  flatMap_subset (by decide) _

end

/-- In templates of no particular language a search finds the keys that it finds in the two languages, and
    with them those of a script. The keys found do not depend on the order or repetition of the names, and
    there are only more of them when there are more names. -/
theorem keys_of_dialects (names : List String) (file : String) (document : List Char) (start : Nat)
    (part : List Char) :
    let found := fun (dialect : Dialect) (names : List String) =>
      dialect.keys names file document start part
    found template names = found svelte names ∪ found vue names ∧
      found script names ⊆ found template names ∧
        ∀ dialect (names' : List String),
          (names.toFinset ⊆ names'.toFinset → found dialect names ⊆ found dialect names') ∧
            (names.toFinset = names'.toFinset → found dialect names = found dialect names') := by
  intro found
  have union : found template names = found svelte names ∪ found vue names := by
    ext key
    simp only [found, Finset.mem_union, mem_keys_iff, mem_patterns_template_iff, or_and_right, exists_or,
      and_or_left]
  have grows : ∀ (dialect : Dialect) {few more : List String}, few.toFinset ⊆ more.toFinset →
      found dialect few ⊆ found dialect more := by
    intro dialect few more included
    refine keys_subset_of_names dialect fun name listed => ?_
    exact List.mem_toFinset.1 (included (List.mem_toFinset.2 listed))
  refine ⟨union, ?_, fun dialect names' => ⟨grows dialect, fun same => ?_⟩⟩
  · rw [union]
    exact (keys_subset_of_patterns (script_patterns_subset _)).trans Finset.subset_union_left
  · exact (grows dialect same.subset).antisymm (grows dialect same.superset)

/-- Calls and a directive, searched for with one name and with that name twice, after another. -/
theorem keys_of_dialects_directive :
    let part := "\x7bt('A')\x7d <p v-t=\"'B'\"> $t('C')".toList
    let found := fun (dialect : Dialect) (names : List String) => dialect.keys names "a" part 0 part
    (["t"].toFinset ⊆ ["$t", "t", "t"].toFinset ∧ ["t", "$t"].toFinset = ["$t", "t", "t"].toFinset) ∧
      .ofString "B" ∈ found template ["t"] ∧ .ofString "B" ∉ found svelte ["t"] ∧
        found template ["t"] = found svelte ["t"] ∪ found vue ["t"] ∧
          found template ["t"] ⊆ found template ["$t", "t", "t"] ∧
            found vue ["t", "$t"] = found vue ["$t", "t", "t"] := by
  intro part found
  have included : ["t"].toFinset ⊆ ["$t", "t", "t"].toFinset := by decide
  have same : ["t", "$t"].toFinset = ["$t", "t", "t"].toFinset := by decide
  obtain ⟨union, _, grows⟩ := keys_of_dialects ["t"] "a" part 0 part
  obtain ⟨_, _, kept⟩ := keys_of_dialects ["t", "$t"] "a" part 0 part
  refine ⟨⟨included, same⟩, ?_, ?_, union, (grows template _).1 included, (kept vue _).2 same⟩
  · exact List.mem_toFinset.2 (by decide +kernel)
  · exact fun member => absurd (List.mem_toFinset.1 member) (by decide +kernel)

end Phrasebook.Dialect
