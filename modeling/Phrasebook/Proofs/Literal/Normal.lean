import Phrasebook.Literal
import Phrasebook.Proofs.Text.Blank

namespace Phrasebook.Literal

theorem feed_not_mem_flush (run : List Char) : '\n' ∉ joinLinesFrom.flush run := by
  unfold joinLinesFrom.flush
  split
  · decide
  · rename_i unbroken
    simpa using unbroken

theorem feed_not_mem_joinLinesFrom (run text : List Char) : '\n' ∉ joinLinesFrom run text := by
  induction text generalizing run with
  | nil => exact feed_not_mem_flush run
  | cons c text ih =>
    unfold joinLinesFrom
    split
    · exact ih (c :: run)
    · rename_i visible
      have other : '\n' ≠ c := by
        rintro rfl
        exact visible (by decide)
      rw [List.mem_append, List.mem_cons, not_or, not_or]
      exact ⟨feed_not_mem_flush run, other, ih []⟩

theorem feed_not_mem_normalize (raw : List Char) : '\n' ∉ normalize raw :=
  fun member => feed_not_mem_joinLinesFrom [] _ (Text.mem_of_mem_strip member)

theorem trimmed_normalize (raw : List Char) : Text.Trimmed (normalize raw) := Text.trimmed_strip _

end Phrasebook.Literal
