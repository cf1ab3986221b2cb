namespace Phrasebook

section

variable {α : Type} {le : α → α → Bool}
  (trans : ∀ a b c, le a b = true → le b c = true → le a c = true)
  (total : ∀ a b, (le a b || le b a) = true)

include trans total

/-- A new first item parts the sorted rest into what must come before it and what it may come
    before. -/
theorem mergeSort_cons_eq_filter (a : α) (items : List α) :
    (a :: items).mergeSort le =
      (items.mergeSort le).filter (!le a ·) ++ a :: (items.mergeSort le).filter (le a ·) := by
  obtain ⟨front, back, sorted, rest, before⟩ := List.mergeSort_cons trans total a items
  have ordered := List.pairwise_mergeSort trans total (a :: items)
  rw [sorted] at ordered
  have behind := (List.pairwise_cons.1 (List.pairwise_append.1 ordered).2.1).1
  have left : (front ++ back).filter (!le a ·) = front := by
    rw [List.filter_append, List.filter_eq_self.2 before,
      List.filter_eq_nil_iff.2 fun b member => by simp [behind b member], List.append_nil]
  have right : (front ++ back).filter (le a ·) = back := by
    rw [List.filter_append, List.filter_eq_self.2 behind,
      List.filter_eq_nil_iff.2 fun b member => by simpa using before b member, List.nil_append]
  rw [sorted, rest, left, right]

theorem mergeSort_sublist_mergeSort {part items : List α} (inside : part.Sublist items) :
    (part.mergeSort le).Sublist (items.mergeSort le) := by
  induction inside with
  | slnil => exact List.Sublist.refl _
  | @cons part items a _ ih =>
    obtain ⟨front, back, sorted, rest, _⟩ := List.mergeSort_cons trans total a items
    rw [rest] at ih
    rw [sorted]
    exact ih.trans ((List.Sublist.refl front).append (List.sublist_cons_self a back))
  | @cons_cons part items a _ ih =>
    rw [mergeSort_cons_eq_filter trans total, mergeSort_cons_eq_filter trans total]
    exact (ih.filter _).append ((ih.filter _).cons_cons a)

theorem filter_mergeSort (p : α → Bool) (items : List α) :
    (items.mergeSort le).filter p = (items.filter p).mergeSort le := by
  have inside := (mergeSort_sublist_mergeSort trans total
    (List.filter_sublist (p := p) (l := items))).filter p
  rw [List.filter_eq_self.2 fun a member =>
    (List.mem_filter.1 ((List.mergeSort_perm _ _).mem_iff.1 member)).2] at inside
  have sameLength := ((List.mergeSort_perm items le).filter p).length_eq
  rw [← (List.mergeSort_perm (items.filter p) le).length_eq] at sameLength
  exact (inside.eq_of_length sameLength.symm).symm

theorem filter_mergeSort_of_tied {p : α → Bool} {items : List α}
    (tied : ∀ a ∈ items, ∀ b ∈ items, p a = true → p b = true → le a b = true) :
    (items.mergeSort le).filter p = items.filter p := by
  rw [filter_mergeSort trans total]
  refine List.mergeSort_of_pairwise (List.pairwise_of_forall_mem_list fun a mineA b mineB => ?_)
  obtain ⟨mineA, keptA⟩ := List.mem_filter.1 mineA
  obtain ⟨mineB, keptB⟩ := List.mem_filter.1 mineB
  exact tied a mineA b mineB keptA keptB

end

theorem find?_eq_some_iff_of_sorted {α : Type} {items : List α} {place : α → Nat}
    (sorted : items.Pairwise fun a b => place a < place b) {p : α → Bool} {a : α} :
    items.find? p = some a ↔
      a ∈ items ∧ p a = true ∧ ∀ b ∈ items, p b = true → place a ≤ place b := by
  rw [List.find?_eq_some_iff_append]
  constructor
  · rintro ⟨holds, before, after, rfl, refused⟩
    refine ⟨by simp, holds, fun b member holds' => ?_⟩
    rcases List.mem_append.1 member with earlier | later
    · have rejected := refused b earlier
      rw [holds'] at rejected
      cases rejected
    · rcases List.mem_cons.1 later with rfl | later
      · exact Nat.le_refl _
      · exact Nat.le_of_lt ((List.pairwise_cons.1 (List.pairwise_append.1 sorted).2.1).1 b later)
  · intro ⟨member, holds, least⟩
    obtain ⟨before, after, rfl⟩ := List.append_of_mem member
    refine ⟨holds, before, after, rfl, fun b earlier => ?_⟩
    have front := (List.pairwise_append.1 sorted).2.2 b earlier a List.mem_cons_self
    cases holds' : p b with
    | false => rfl
    | true =>
      have late := least b (List.mem_append_left _ earlier) holds'
      omega

end Phrasebook
