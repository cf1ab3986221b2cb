import Mathlib.Data.List.Induction
import Mathlib.Data.List.Nodup
import Phrasebook.Item

namespace Phrasebook

section

variable {α κ : Type} [BEq κ] [LawfulBEq κ] (key : α → κ)

def firstsBy (items : List α) : List α :=
  items.foldl (fun kept a => if kept.any (key · == key a) then kept else kept ++ [a]) []

structure AreFirsts (items kept : List α) : Prop where
  sublist : kept.Sublist items
  distinct : (kept.map key).Nodup
  complete : ∀ a ∈ items, key a ∈ kept.map key
  first : ∀ a ∈ kept, items.find? (key · == key a) = some a

theorem firstsBy_concat (items : List α) (a : α) :
    firstsBy key (items ++ [a]) =
      if key a ∈ (firstsBy key items).map key then firstsBy key items
      else firstsBy key items ++ [a] := by
  have same : ((firstsBy key items).any (key · == key a)) = true ↔
      key a ∈ (firstsBy key items).map key := by
    simp only [List.any_eq_true, beq_iff_eq, List.mem_map]
  unfold firstsBy at same ⊢
  rw [List.foldl_append, List.foldl_cons, List.foldl_nil]
  simp only [same]

theorem areFirsts_firstsBy (items : List α) : AreFirsts key items (firstsBy key items) := by
  induction items using List.reverseRecOn with
  | nil => exact ⟨List.Sublist.refl _, List.nodup_nil, by simp, by simp [firstsBy]⟩
  | append_singleton items a ih =>
    rw [firstsBy_concat]
    have earlier : ∀ b ∈ firstsBy key items,
        (items ++ [a]).find? (key · == key b) = some b := by
      intro b member
      rw [List.find?_append, ih.first b member, Option.some_or]
    by_cases seen : key a ∈ (firstsBy key items).map key
    · rw [if_pos seen]
      refine ⟨ih.sublist.trans (List.sublist_append_left _ _), ih.distinct, fun b member => ?_, earlier⟩
      rcases List.mem_append.1 member with member | member
      · exact ih.complete b member
      · rw [List.mem_singleton.1 member]
        exact seen
    · rw [if_neg seen]
      refine ⟨ih.sublist.append (List.Sublist.refl _), ?_, fun b member => ?_, fun b member => ?_⟩
      · rw [List.map_append, List.map_singleton]
        refine List.nodup_append.2 ⟨ih.distinct, by simp, fun k inside other equal => ?_⟩
        rw [List.mem_singleton.1 equal]
        exact fun same => seen (same ▸ inside)
      · rw [List.map_append]
        rcases List.mem_append.1 member with member | member
        · exact List.mem_append_left _ (ih.complete b member)
        · rw [List.mem_singleton.1 member]
          exact List.mem_append_right _ (by simp)
      · rcases List.mem_append.1 member with member | member
        · exact earlier b member
        · rw [List.mem_singleton.1 member, List.find?_append, List.find?_eq_none.2]
          · simp
          · intro b inside
            rw [beq_iff_eq]
            intro same
            exact seen (same ▸ ih.complete b inside)

theorem mem_map_firstsBy_iff {items : List α} {k : κ} :
    k ∈ (firstsBy key items).map key ↔ k ∈ items.map key := by
  have firsts := areFirsts_firstsBy key items
  constructor
  · exact fun kept => (firsts.sublist.map key).subset kept
  · intro member
    obtain ⟨a, inside, rfl⟩ := List.mem_map.1 member
    exact firsts.complete a inside

theorem firstsBy_map {β ι : Type} [BEq ι] [LawfulBEq ι] {f : α → β} {key' : β → ι}
    (same : ∀ a b, key' (f a) = key' (f b) ↔ key a = key b) (items : List α) :
    firstsBy key' (items.map f) = (firstsBy key items).map f := by
  induction items using List.reverseRecOn with
  | nil => rfl
  | append_singleton items a ih =>
    have seen : key' (f a) ∈ (((firstsBy key items).map f).map key') ↔
        key a ∈ (firstsBy key items).map key := by
      simp only [List.mem_map, exists_exists_and_eq_and, same]
    rw [List.map_append, List.map_singleton, firstsBy_concat, firstsBy_concat, ih]
    simp only [seen]
    split <;> simp

end

theorem firstOccurrences_eq {α : Type} [BEq α] [LawfulBEq α] (items : List α) :
    firstOccurrences items = firstsBy id items := by
  unfold firstOccurrences firstsBy
  congr 1
  funext seen a
  have same : seen.contains a = seen.any fun b => id b == id a := by
    rw [List.contains_eq_any_beq]
    congr 1
    funext b
    exact BEq.comm
  rw [same]

theorem mem_firstOccurrences_iff {α : Type} [BEq α] [LawfulBEq α] {items : List α} {a : α} :
    a ∈ firstOccurrences items ↔ a ∈ items := by
  rw [firstOccurrences_eq]
  have firsts := areFirsts_firstsBy id items
  exact ⟨fun kept => firsts.sublist.subset kept, fun member => by simpa using firsts.complete a member⟩

theorem nodup_firstOccurrences {α : Type} [BEq α] [LawfulBEq α] (items : List α) :
    (firstOccurrences items).Nodup := by
  have firsts := areFirsts_firstsBy id items
  rw [firstOccurrences_eq]
  simpa using firsts.distinct

theorem firstOccurrences_concat {α : Type} [BEq α] [LawfulBEq α] (items : List α) (a : α) :
    firstOccurrences (items ++ [a]) =
      if a ∈ firstOccurrences items then firstOccurrences items else firstOccurrences items ++ [a] := by
  rw [firstOccurrences_eq, firstOccurrences_eq, firstsBy_concat]
  simp

theorem pairwise_firstOccurrences {α : Type} [BEq α] [LawfulBEq α] (items : List α) :
    (firstOccurrences items).Pairwise fun a b => items.idxOf a < items.idxOf b := by
  induction items using List.reverseRecOn with
  | nil => exact .nil
  | append_singleton items a ih =>
    have earlier : ∀ b ∈ firstOccurrences items, (items ++ [a]).idxOf b = items.idxOf b :=
      fun b kept => List.idxOf_append_of_mem (mem_firstOccurrences_iff.1 kept)
    have front : (firstOccurrences items).Pairwise fun b c =>
        (items ++ [a]).idxOf b < (items ++ [a]).idxOf c := by
      refine ih.imp_of_mem fun {b c} first second less => ?_
      rwa [earlier b first, earlier c second]
    rw [firstOccurrences_concat]
    split
    · exact front
    · rename_i fresh
      refine List.pairwise_append.2 ⟨front, List.pairwise_singleton .., fun b kept c last => ?_⟩
      have new : a ∉ items := fun member => fresh (mem_firstOccurrences_iff.2 member)
      have member := mem_firstOccurrences_iff.1 kept
      rw [List.mem_singleton.1 last, earlier b kept, List.idxOf_append_of_notMem new]
      exact Nat.lt_of_lt_of_le (List.idxOf_lt_length_of_mem member) (Nat.le_add_right ..)

theorem Item.dedupe_eq (items : List Item) : dedupe items = firstsBy Item.key items := rfl

theorem Merged.key_add (merged : Merged) (item : Item) : (merged.add item).key = merged.key := by
  unfold add takeParams
  split <;> rfl

theorem Merged.map_key_insert (merged : List Merged) (item : Item) :
    (insert merged item).map (·.key) =
      if item.key ∈ merged.map (·.key) then merged.map (·.key)
      else merged.map (·.key) ++ [item.key] := by
  have seen : merged.any (·.key == item.key) = true ↔ item.key ∈ merged.map (·.key) := by
    simp only [List.any_eq_true, beq_iff_eq, List.mem_map]
  unfold insert
  simp only [seen]
  split
  · rw [List.map_map]
    refine List.map_congr_left fun m _ => ?_
    rw [Function.comp_apply]
    split
    · exact m.key_add item
    · rfl
  · rw [List.map_append, List.map_singleton, key_add]
    rfl

/-- Items are merged under the keys that remain when only the first item of every key is kept. -/
theorem Merged.map_key_ofItems (items : List Item) :
    (ofItems items).map (·.key) = (Item.dedupe items).map (·.key) := by
  rw [Item.dedupe_eq]
  unfold ofItems
  induction items using List.reverseRecOn with
  | nil => rfl
  | append_singleton items item ih =>
    rw [List.foldl_append, List.foldl_cons, List.foldl_nil, map_key_insert, ih, firstsBy_concat]
    split
    · rfl
    · rw [List.map_append, List.map_singleton]

end Phrasebook
