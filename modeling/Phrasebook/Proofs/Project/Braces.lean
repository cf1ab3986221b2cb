import Mathlib.Data.List.TakeWhile
import Phrasebook.Project.Braces

namespace Phrasebook.Braces

theorem expand_of_firstGroup?_none {pattern : List Char} (h : firstGroup? pattern = none) :
    expand pattern = [pattern] := by
  rw [expand]
  split
  · rfl
  · rename_i group found
    rw [h] at found
    cases found

theorem expand_of_firstGroup? {pattern : List Char} {group : Group}
    (h : firstGroup? pattern = some group) :
    expand pattern = (Text.splitAt ',' group.inside).flatMap fun choice =>
      expand (group.before ++ choice ++ group.after) := by
  rw [expand]
  split
  · rename_i found
    rw [h] at found
    cases found
  · rename_i other found
    rw [h] at found
    cases found
    rw [List.flatMap_def, List.flatMap_def]
    congr 1
    exact List.attach_map_val (f := fun choice => expand (group.before ++ choice ++ group.after))

theorem firstGroup?_cons_of_ne {c : Char} {text : List Char} (other : c ≠ '\x7b') :
    firstGroup? (c :: text) =
      (firstGroup? text).map fun group => { group with before := c :: group.before } := by
  have unlike : (c == '\x7b') = false := by simpa using other
  rw [firstGroup?, unlike, if_neg Bool.false_ne_true]

theorem firstGroup?_eq_none {pattern : List Char} (h : '\x7b' ∉ pattern) :
    firstGroup? pattern = none := by
  induction pattern with
  | nil => rfl
  | cons c pattern ih =>
    rw [List.mem_cons, not_or] at h
    rw [firstGroup?_cons_of_ne fun same => h.1 same.symm, ih h.2]
    rfl

theorem expand_of_not_mem {pattern : List Char} (h : '\x7b' ∉ pattern) :
    expand pattern = [pattern] := expand_of_firstGroup?_none (firstGroup?_eq_none h)

theorem isBrace_eq_false_iff {c : Char} : isBrace c = false ↔ c ≠ '\x7b' ∧ c ≠ '\x7d' := by
  simp [isBrace]

def flat (inside : List Char) : List Char := '\x7b' :: inside ++ ['\x7d']

theorem inside?_eq_some_iff {text inside after : List Char} :
    inside? text = some (inside, after) ↔
      (∀ c ∈ inside, isBrace c = false) ∧ text = inside ++ '\x7d' :: after := by
  unfold inside?
  constructor
  · intro h
    simp only at h
    split at h
    · rename_i rest found
      simp only [Option.some.injEq, Prod.mk.injEq] at h
      obtain ⟨rfl, rfl⟩ := h
      have whole := List.prefix_iff_eq_append.1 (List.takeWhile_prefix (!isBrace ·) (l := text))
      rw [found] at whole
      exact ⟨fun c member => by simpa using List.mem_takeWhile_imp member, whole.symm⟩
    · cases h
  · intro ⟨plain, whole⟩
    have taken : text.takeWhile (!isBrace ·) = inside := by
      rw [whole, List.takeWhile_append_of_pos (fun c member => by simp [plain c member])]
      simp [isBrace]
    simp only [taken]
    rw [whole, List.drop_left]
    rfl

theorem firstGroup?_eq_some {text : List Char} {group : Group} (h : firstGroup? text = some group) :
    (∀ c ∈ group.inside, isBrace c = false) ∧
      text = group.before ++ flat group.inside ++ group.after := by
  induction text generalizing group with
  | nil => cases h
  | cons c text ih =>
    rw [firstGroup?] at h
    split at h
    · rename_i inside after found
      cases h
      split at found
      · rename_i opening
        obtain ⟨plain, whole⟩ := inside?_eq_some_iff.1 found
        obtain rfl : c = '\x7b' := by simpa using opening
        exact ⟨plain, by simp [flat, whole]⟩
      · cases found
    · obtain ⟨inner, found, rfl⟩ := Option.map_eq_some_iff.1 h
      obtain ⟨plain, whole⟩ := ih found
      exact ⟨plain, congrArg (c :: ·) whole⟩

/-- Some part of a text is a group without groups inside. -/
def HasGroup (text : List Char) : Prop :=
  ∃ before inside after, (∀ c ∈ inside, isBrace c = false) ∧ text = before ++ flat inside ++ after

theorem not_hasGroup_of_firstGroup? {text : List Char} (h : firstGroup? text = none) :
    ¬ HasGroup text := by
  intro ⟨before, inside, after, plain, whole⟩
  induction before generalizing text with
  | nil =>
    have found : inside? (inside ++ '\x7d' :: after) = some (inside, after) :=
      inside?_eq_some_iff.2 ⟨plain, rfl⟩
    have flat' : text = '\x7b' :: (inside ++ '\x7d' :: after) := by simp [whole, flat]
    rw [flat', firstGroup?, beq_self_eq_true, if_pos rfl, found] at h
    cases h
  | cons c before ih =>
    rw [whole, List.cons_append, List.cons_append, firstGroup?] at h
    split at h
    · cases h
    · exact ih (Option.map_eq_none_iff.1 h) rfl

theorem firstGroup?_opening_eq_none {text : List Char} (h : firstGroup? ('\x7b' :: text) = none) :
    inside? text = none ∧ firstGroup? text = none := by
  rw [firstGroup?, beq_self_eq_true, if_pos rfl] at h
  split at h
  · cases h
  · rename_i unclosed
    exact ⟨unclosed, Option.map_eq_none_iff.1 h⟩

theorem not_hasGroup_of_mem_expand {pattern text : List Char} (h : text ∈ expand pattern) :
    ¬ HasGroup text := by
  induction pattern using expand.induct with
  | case1 pattern found =>
    rw [expand_of_firstGroup?_none found, List.mem_singleton] at h
    exact h ▸ not_hasGroup_of_firstGroup? found
  | case2 pattern group found ih =>
    rw [expand_of_firstGroup? found, List.mem_flatMap] at h
    obtain ⟨choice, member, inner⟩ := h
    exact ih choice member inner

end Phrasebook.Braces
