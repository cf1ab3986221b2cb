import Mathlib.Data.List.DropRight
import Mathlib.Data.List.TakeWhile
import Phrasebook.Text.Blank

namespace Phrasebook.Text

theorem dropWhile_isBlank_append {blanks : List Char} (blank : ∀ c ∈ blanks, isBlank c = true)
    (text : List Char) (seen : ∀ c ∈ text.head?, isBlank c = false) :
    (blanks ++ text).dropWhile isBlank = text := by
  rw [List.dropWhile_append_of_pos blank]
  cases text with
  | nil => rfl
  | cons c text => rw [List.dropWhile_cons_of_neg (by simp [seen c rfl])]

theorem exists_dropWhile_isBlank (text : List Char) :
    ∃ blanks, text = blanks ++ text.dropWhile isBlank ∧ ∀ c ∈ blanks, isBlank c = true :=
  ⟨_, (List.takeWhile_append_dropWhile).symm, fun _ member => List.mem_takeWhile_imp member⟩

structure Trimmed (text : List Char) : Prop where
  head : ∀ c ∈ text.head?, isBlank c = false
  last : ∀ c ∈ text.getLast?, isBlank c = false

theorem strip_eq (text : List Char) : strip text = (text.dropWhile isBlank).rdropWhile isBlank := rfl

theorem mem_of_mem_strip {text : List Char} {c : Char} (member : c ∈ strip text) : c ∈ text := by
  rw [strip_eq] at member
  have inner : c ∈ text.dropWhile isBlank := (List.rdropWhile_prefix isBlank _).subset member
  exact (List.dropWhile_suffix isBlank).subset inner

theorem trimmed_strip (text : List Char) : Trimmed (strip text) := by
  rw [strip_eq]
  constructor
  · intro c first
    -- What is left in front is where the white space at the beginning ended.
    obtain ⟨tail, whole⟩ := List.rdropWhile_prefix isBlank (text.dropWhile isBlank)
    have front : (text.dropWhile isBlank).head? = some c := by
      rw [← whole, List.head?_append, Option.mem_def.1 first]
      rfl
    have visible := List.head?_dropWhile_not isBlank text
    rw [front] at visible
    exact visible
  · intro c last
    have some' : (text.dropWhile isBlank).rdropWhile isBlank ≠ [] := by
      intro none'
      rw [none'] at last
      cases last
    have visible := List.rdropWhile_last_not isBlank (text.dropWhile isBlank) some'
    rw [List.getLast?_eq_some_getLast some', Option.mem_def, Option.some.injEq] at last
    rw [last] at visible
    exact Bool.eq_false_iff.2 visible

end Phrasebook.Text
