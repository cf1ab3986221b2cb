import Mathlib.Data.Finset.Dedup
import Phrasebook.Convention.Dialect
import Phrasebook.Proofs.Firsts
import Phrasebook.Proofs.Text.Letter

namespace Phrasebook.Dialect

def candidates (dialect : Dialect) (names : List String) (text : List Char) : List Find :=
  ((dialect.patterns (names.map (·.toList))).flatMap fun pattern =>
    (pattern.matchesIn text).map Find.ofMatch).filter fun find => !find.key.isEmpty

theorem firstFinds_eq (finds : List Find) :
    firstFinds finds = firstsBy Find.key (finds.filter fun find => !find.key.isEmpty) := by
  induction finds using List.reverseRecOn with
  | nil => rfl
  | append_singleton finds find ih =>
    have step : firstFinds (finds ++ [find]) =
        if find.key.isEmpty || (firstFinds finds).any (·.key == find.key) then firstFinds finds
        else firstFinds finds ++ [find] := by
      simp [firstFinds]
    rw [step, List.filter_append]
    cases empty : find.key.isEmpty with
    | true => simp [empty, ih]
    | false =>
      have seen : ((firstFinds finds).any (·.key == find.key)) = true ↔
          find.key ∈ (firstFinds finds).map Find.key := by
        simp only [List.any_eq_true, beq_iff_eq, List.mem_map]
      have single : [find].filter (fun find => !find.key.isEmpty) = [find] := by simp [empty]
      rw [single, firstsBy_concat, ← ih]
      simp only [Bool.false_or, seen]

theorem finds_eq (dialect : Dialect) (names : List String) (text : List Char) :
    dialect.finds names text = firstsBy Find.key (dialect.candidates names text) :=
  firstFinds_eq _

/-- The item of a match in a section that starts at an index of its document. -/
def Find.item (file : String) (document : List Char) (start : Nat) (find : Find) : Item :=
  let position := Text.Position.ofIndex document (start + find.index)
  Item.create (.ofChars find.key) file position.line position.column none

theorem Find.item_key (file : String) (document : List Char) (start : Nat) (find : Find) :
    (find.item file document start).key = .ofChars find.key := rfl

theorem itemsAt_eq (dialect : Dialect) (names : List String) (file : String)
    (document : List Char) (start : Nat) (part : List Char) :
    dialect.itemsAt names file document start part =
      firstsBy Item.key ((dialect.candidates names part).map (Find.item file document start)) := by
  have same : ∀ a b : Find, (a.item file document start).key = (b.item file document start).key ↔
      a.key = b.key := by
    intro a b
    rw [Find.item_key, Find.item_key, Wording.ofChars_injective.eq_iff]
  rw [firstsBy_map Find.key same, ← finds_eq]
  rfl

theorem key_ne_empty_of_mem_candidates {dialect : Dialect} {names : List String} {text : List Char}
    {find : Find} (h : find ∈ dialect.candidates names text) : find.key ≠ [] := by
  have kept := (List.mem_filter.1 h).2
  simpa using kept

/-- The keys that a search finds, without their places. -/
def keys (dialect : Dialect) (names : List String) (file : String) (document : List Char) (start : Nat)
    (part : List Char) : Finset Wording :=
  ((dialect.itemsAt names file document start part).map Item.key).toFinset

theorem mem_keys_iff {dialect : Dialect} {names : List String} {file : String}
    {document part : List Char} {start : Nat} {key : Wording} :
    key ∈ dialect.keys names file document start part ↔
      key ≠ [] ∧ ∃ pattern ∈ dialect.patterns (names.map (·.toList)), ∃ found ∈ pattern.matchesIn part,
        .ofChars (Literal.normalize found.body) = key := by
  rw [keys, List.mem_toFinset, itemsAt_eq, mem_map_firstsBy_iff, List.map_map]
  simp only [List.mem_map, Function.comp_apply, Find.item_key, candidates, List.mem_filter,
    List.mem_flatMap, Bool.not_eq_true', List.isEmpty_eq_false_iff]
  constructor
  · rintro ⟨find, ⟨⟨pattern, member, found, inside, rfl⟩, filled⟩, rfl⟩
    exact ⟨fun empty => filled (Wording.ofChars_eq_nil.1 empty), pattern, member, found, inside, rfl⟩
  · rintro ⟨filled, pattern, member, found, inside, rfl⟩
    exact ⟨Find.ofMatch found, ⟨⟨pattern, member, found, inside, rfl⟩,
      fun empty => filled (Wording.ofChars_eq_nil.2 empty)⟩, rfl⟩

theorem key_ne_empty_of_mem_itemsAt {dialect : Dialect} {names : List String} {file : String}
    {document part : List Char} {start : Nat} {item : Item}
    (h : item ∈ dialect.itemsAt names file document start part) : item.key ≠ [] := by
  rw [itemsAt_eq] at h
  obtain ⟨find, member, rfl⟩ := List.mem_map.1 ((areFirsts_firstsBy Item.key _).sublist.subset h)
  rw [Find.item_key]
  intro empty
  exact key_ne_empty_of_mem_candidates member (Wording.ofChars_eq_nil.1 empty)

end Phrasebook.Dialect
