import Phrasebook.CommandLine.Run
import Phrasebook.Proofs.Catalog.Reconcile

namespace Phrasebook.Catalog

theorem length_missing_add (source target : Catalog) :
    source.keys.countP target.translates + (missing source target).length = source.size := by
  have whole := List.length_eq_countP_add_countP target.translates (l := source.keys)
  have size : source.keys.length = source.size := by rw [keys, Entry.keys, List.length_map, size]
  rw [missing, ← List.countP_eq_length_filter, ← size, whole]
  congr 1
  apply List.countP_congr
  intro key _
  simp

theorem translated_le (source target : Catalog) :
    (coverage source target).translated ≤ (coverage source target).total := by
  have parts := length_missing_add source target
  simp only [coverage]
  omega

section

variable {part whole : Nat}

theorem percentage_of_ne_zero (some : whole ≠ 0) :
    percentage part whole = (200 * part + whole) / (2 * whole) := if_neg some

theorem percentage_zero (part : Nat) : percentage part 0 = 100 := rfl

theorem percentage_mono (whole : Nat) : Monotone fun part => percentage part whole := by
  intro part more le
  dsimp only
  rcases eq_or_ne whole 0 with rfl | some
  · rw [percentage_zero, percentage_zero]
  · rw [percentage_of_ne_zero some, percentage_of_ne_zero some]
    exact Nat.div_le_div_right (by omega)

theorem percentage_le (le : part ≤ whole) : percentage part whole ≤ 100 := by
  rcases eq_or_ne whole 0 with rfl | some
  · rw [percentage_zero]
  · rw [percentage_of_ne_zero some]
    have less : (200 * part + whole) / (2 * whole) < 101 := by
      rw [Nat.div_lt_iff_lt_mul (by omega)]
      omega
    omega

theorem percentage_eq_hundred_iff (le : part ≤ whole) :
    percentage part whole = 100 ↔ 200 * (whole - part) ≤ whole := by
  rcases eq_or_ne whole 0 with rfl | some
  · simp [percentage_zero]
  · have most := percentage_le le
    have least : 100 ≤ percentage part whole ↔ 100 * (2 * whole) ≤ 200 * part + whole := by
      rw [percentage_of_ne_zero some]
      exact Nat.le_div_iff_mul_le (by omega)
    omega

theorem percentage_eq_floor (some : whole ≠ 0) :
    (percentage part whole : ℤ) = ⌊(part * 100 / whole + 1 / 2 : ℚ)⌋ := by
  have positive : (whole : ℚ) ≠ 0 := Nat.cast_ne_zero.2 some
  have fraction : (part * 100 / whole + 1 / 2 : ℚ) =
      ((200 * part + whole : ℕ) : ℚ) / ((2 * whole : ℕ) : ℚ) := by
    push_cast
    field_simp
    ring
  rw [percentage_of_ne_zero some, fraction, Rat.floor_natCast_div_natCast]
  rfl

end

theorem translates_iff {target : Catalog} {key : String} :
    target.translates key = true ↔
      ∃ text, target.get? key = some text ∧ text ≠ "" ∧ text ≠ key := by
  unfold translates
  cases target.get? key <;> simp

/-- Where nothing is replaced and no placeholders are checked, reconciling keeps every translation. -/
theorem translates_reconcile {flush : Bool} {source target : Catalog} {key : String}
    (wanted : key ∈ source.keys) (translated : target.translates key = true) :
    (reconcile ⟨flush, false, false⟩ source target).translates key = true := by
  obtain ⟨existing, there, worded⟩ := translates_iff.1 translated
  obtain ⟨text, offered⟩ : ∃ text, source.get? key = some text := by
    cases offered : source.get? key with
    | none => exact absurd wanted (get?_eq_none_iff.1 offered)
    | some text => exact ⟨text, rfl⟩
  -- Flushing takes only keys that the source lacks.
  have kept : (reconcile ⟨flush, false, false⟩ source target).get? key = some existing := by
    rw [get?_reconcile, offered, there]
    simp [reconciledText]
  exact translates_iff.2 ⟨existing, kept, worded⟩

theorem translated_le_reconcile (flush : Bool) (source target : Catalog) :
    (coverage source target).translated ≤
      (coverage source (reconcile ⟨flush, false, false⟩ source target)).translated := by
  apply List.countP_mono_left
  intro key wanted translated
  exact translates_reconcile wanted translated

theorem length_statusBar {percentage : Nat} (le : percentage ≤ 100) :
    (CommandLine.statusBar percentage).length = CommandLine.barLength := by
  have filled : percentage / 5 ≤ CommandLine.barLength := Nat.div_le_of_le_mul le
  simp only [CommandLine.statusBar, String.length_ofList, List.length_append, List.length_replicate]
  omega

/-- What `coverage` counts is what `missing` lists, and its percentage is the share in percent, rounded
    half up. Of a source without keys there is no share, and it is shown as complete. A source with gaps
    is shown so as well when they are at most one key in two hundred. -/
theorem coverage_accounts (source target : Catalog) :
    let found := coverage source target
    found.missing = (missing source target).length ∧
      found.total = source.size ∧
      found.translated + found.missing = found.total ∧
      (found.total ≠ 0 →
        (found.percentage : ℤ) = ⌊(found.translated * 100 / found.total + 1 / 2 : ℚ)⌋ ∧
          found.percentage = (200 * found.translated + found.total) / (2 * found.total)) ∧
      (found.total = 0 → found.percentage = 100) ∧
      found.percentage ≤ 100 ∧
      (∀ total, Monotone fun translated => percentage translated total) ∧
      (found.percentage = 100 ↔ 200 * found.missing ≤ found.total) ∧
      (CommandLine.statusBar found.percentage).length = 20 ∧
      ∀ flush, found.translated ≤
        (coverage source (reconcile ⟨flush, false, false⟩ source target)).translated := by
  intro found
  have parts := length_missing_add source target
  have le := translated_le source target
  have most : found.percentage ≤ 100 := percentage_le le
  have nothing (none : found.total = 0) : found.percentage = 100 := by
    have shown : found.percentage = percentage found.translated found.total := rfl
    rw [shown, none, percentage_zero]
  refine ⟨?count, rfl, ?sum, fun some => ⟨percentage_eq_floor some, percentage_of_ne_zero some⟩,
    nothing, most, percentage_mono, percentage_eq_hundred_iff le, length_statusBar most,
    fun flush => translated_le_reconcile flush source target⟩
  case count =>
    simp only [found, coverage]
    omega
  case sum =>
    simp only [found, coverage]
    omega

theorem coverage_accounts_third :
    let source := ofList [("a", "a"), ("b", "b"), ("c", "c")]
    let target := ofList [("a", "甲"), ("b", "b"), ("z", "")]
    (coverage source target).total ≠ 0 ∧ (coverage source target).percentage = 33 ∧
      (coverage source target).missing = 2 := by
  intro source target
  have nonempty : (coverage source target).total ≠ 0 := by decide
  obtain ⟨listed, -, -, rounded, -⟩ := coverage_accounts source target
  have share : (200 * (coverage source target).translated + (coverage source target).total) /
      (2 * (coverage source target).total) = 33 := by decide
  exact ⟨nonempty, (rounded nonempty).2.trans share, listed.trans (by decide)⟩

-- One gap in two hundred keys is not seen, two are.
example : percentage 199 200 = 100 ∧ percentage 198 200 = 99 := by decide

end Phrasebook.Catalog
