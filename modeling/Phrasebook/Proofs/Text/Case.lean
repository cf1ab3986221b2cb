import Mathlib
import Phrasebook.Text.BaseLetter
import Phrasebook.Text.Case

namespace Phrasebook.Text

def IsAscii (text : List Char) : Prop := ∀ c ∈ text, c.toNat < 0x80

instance (text : List Char) : Decidable (IsAscii text) := List.decidableBAll _ text

namespace Case

def Restored (c : Char) : Prop := (swapChar c).flatMap swapChar = [c]

instance (c : Char) : Decidable (Restored c) :=
  inferInstanceAs (Decidable ((swapChar c).flatMap swapChar = [c]))

def AllRestored (text : List Char) : Prop := ∀ c ∈ text, Restored c

instance (text : List Char) : Decidable (AllRestored text) := List.decidableBAll _ text

theorem swapChar_smallSigma (before after : List Char) :
    swapChar (smallSigma before after) = ['Σ'] := by
  unfold smallSigma
  split
  · decide +kernel
  · decide +kernel

theorem flatMap_swapFrom (before : List Char) {text : List Char} (h : AllRestored text) :
    (swapFrom before text).flatMap swapChar = text := by
  -- Which form a sigma takes depends on what stands around it, but both forms lead back.
  induction text generalizing before with
  | nil => rfl
  | cons c rest ih =>
    have first := h c List.mem_cons_self
    have later := ih (c :: before) fun d member => h d (List.mem_cons_of_mem _ member)
    rw [swapFrom, List.flatMap_append, later]
    by_cases sigma : c = 'Σ'
    · rw [if_pos sigma, List.flatMap_singleton, swapChar_smallSigma, sigma]
      rfl
    · rw [if_neg sigma, first]
      rfl

theorem eq_of_swap_eq {a b : List Char} (restoredA : AllRestored a) (restoredB : AllRestored b)
    (h : swap a = swap b) : a = b := by
  have back := congrArg (List.flatMap swapChar) h
  rwa [swap, swap, flatMap_swapFrom [] restoredA, flatMap_swapFrom [] restoredB] at back

def exchange (c : Char) : Char := if c.isUpper then c.toLower else c.toUpper

section

variable {c : Char} (ascii : c.toNat < 0x80)

include ascii

theorem foldChar_of_ascii : foldChar c = [c.toLower] := if_pos ascii

theorem swapChar_of_ascii : swapChar c = [exchange c] := if_pos ascii

theorem restored_of_ascii : Restored c := by
  have all : ∀ n : Fin 0x80, Restored (Char.ofNat n) := by decide +kernel
  have restored := all ⟨c.toNat, ascii⟩
  rwa [Char.ofNat_toNat] at restored

theorem ne_sigma_of_ascii : c ≠ 'Σ' := by
  rintro rfl
  exact absurd ascii (by decide)

end

section

variable {text : List Char} (ascii : IsAscii text)

include ascii

theorem allRestored_of_ascii : AllRestored text := fun c member => restored_of_ascii (ascii c member)

theorem fold_of_ascii : fold text = text.map Char.toLower := by
  rw [fold, List.map_eq_flatMap]
  exact List.flatMap_congr fun c member => foldChar_of_ascii (ascii c member)

theorem swapFrom_of_ascii (before : List Char) : swapFrom before text = text.map exchange := by
  induction text generalizing before with
  | nil => rfl
  | cons c rest ih =>
    have first := ascii c List.mem_cons_self
    have later := ih (fun d member => ascii d (List.mem_cons_of_mem _ member)) (c :: before)
    rw [swapFrom, if_neg (ne_sigma_of_ascii first), swapChar_of_ascii first, later]
    rfl

theorem swap_of_ascii : swap text = text.map exchange := swapFrom_of_ascii ascii []

end

/-- At the first place where two texts differ, the first of them has a small letter. -/
def SmallFirst (a b : List Char) : Prop :=
  ∃ front x y restA restB, a = front ++ x :: restA ∧ b = front ++ y :: restB ∧ x ≠ y ∧
    x.isLower = true

theorem lt_toLower {c : Char} (upper : c.isUpper = true) : c < c.toLower := by
  have bounds : 'A'.val ≤ c.val ∧ c.val ≤ 'Z'.val := of_decide_eq_true upper
  rw [Char.toLower, dif_pos bounds]
  have last : c.val.toNat ≤ 90 := bounds.2
  simp only [Char.lt_def, UInt32.lt_iff_toNat_lt, UInt32.toNat_add, Char.reduceVal, UInt32.reduceSub,
    UInt32.reduceToNat]
  omega

/-- Two characters with one small form: they are the same, or one is the capital of the other. -/
theorem eq_or_capital {x y : Char} (same : x.toLower = y.toLower) :
    x = y ∨ (x.isUpper = true ∧ y = x.toLower) ∨ (y.isUpper = true ∧ x = y.toLower) := by
  by_cases upperX : x.isUpper = true
  · by_cases upperY : y.isUpper = true
    · have back := congrArg Char.toUpper same
      rw [Char.toUpper_toLower_eq_toUpper, Char.toUpper_toLower_eq_toUpper,
        Char.toUpper_eq_of_not_isLower (Char.not_isLower_of_isUpper upperX),
        Char.toUpper_eq_of_not_isLower (Char.not_isLower_of_isUpper upperY)] at back
      exact .inl back
    · rw [Char.toLower_eq_of_not_isUpper upperY] at same
      exact .inr (.inl ⟨upperX, same.symm⟩)
  · rw [Char.toLower_eq_of_not_isUpper upperX] at same
    by_cases upperY : y.isUpper = true
    · exact .inr (.inr ⟨upperY, same⟩)
    · rw [Char.toLower_eq_of_not_isUpper upperY] at same
      exact .inl same

theorem exchange_eq {x y : Char} (same : x.toLower = y.toLower) (other : x ≠ y) :
    exchange x = y := by
  rcases eq_or_capital same with equal | ⟨upper, rfl⟩ | ⟨upper, rfl⟩
  · exact absurd equal other
  · exact if_pos upper
  · have small : ¬ y.toLower.isUpper = true := by simp
    rw [exchange, if_neg small, Char.toUpper_toLower_eq_toUpper,
      Char.toUpper_eq_of_not_isLower (Char.not_isLower_of_isUpper upper)]

theorem lt_iff_isLower {x y : Char} (same : x.toLower = y.toLower) (other : x ≠ y) :
    y < x ↔ x.isLower = true := by
  rcases eq_or_capital same with equal | ⟨upper, rfl⟩ | ⟨upper, rfl⟩
  · exact absurd equal other
  · have capital := Char.not_isLower_of_isUpper upper
    exact ⟨fun less => absurd less (lt_asymm (lt_toLower upper)), fun small => absurd small capital⟩
  · have small : y.toLower.isLower = true := by
      rw [Char.isLower_toLower_eq_isAlpha, Char.isAlpha, upper, Bool.true_or]
    exact ⟨fun _ => small, fun _ => lt_toLower upper⟩

theorem smallFirst_cons_iff {x y : Char} {restA restB : List Char} :
    SmallFirst (x :: restA) (y :: restB) ↔
      (x ≠ y ∧ x.isLower = true) ∨ (x = y ∧ SmallFirst restA restB) := by
  constructor
  · rintro ⟨front, u, v, as, bs, ha, hb, other, small⟩
    cases front with
    | nil =>
      cases ha
      cases hb
      exact .inl ⟨other, small⟩
    | cons c front =>
      cases ha
      cases hb
      exact .inr ⟨rfl, front, u, v, as, bs, rfl, rfl, other, small⟩
  · rintro (⟨other, small⟩ | ⟨rfl, front, u, v, as, bs, rfl, rfl, other, small⟩)
    · exact ⟨[], x, y, restA, restB, rfl, rfl, other, small⟩
    · exact ⟨x :: front, u, v, as, bs, rfl, rfl, other, small⟩

theorem map_exchange_lt_iff {a b : List Char} (same : a.map Char.toLower = b.map Char.toLower) :
    a.map exchange < b.map exchange ↔ SmallFirst a b := by
  -- Neither text is the beginning of the other, so the first difference is between two letters.
  induction a generalizing b with
  | nil =>
    cases b with
    | nil => simp [SmallFirst]
    | cons y restB => cases same
  | cons x restA ih =>
    cases b with
    | nil => cases same
    | cons y restB =>
      obtain ⟨first, later⟩ := List.cons_eq_cons.1 same
      rw [List.map_cons, List.map_cons, List.cons_lt_cons_iff, smallFirst_cons_iff, ih later]
      by_cases equal : x = y
      · subst equal
        simp
      · rw [exchange_eq first equal, exchange_eq first.symm (Ne.symm equal),
          lt_iff_isLower first equal]
        simp only [equal, Ne.symm equal, ne_eq, not_false_eq_true, true_and, false_and, or_false]

end Case

theorem BaseLetter.ofText_of_ascii {text : List Char} (ascii : IsAscii text) : ofText text = text := by
  have own : ∀ c ∈ text, ofChar c = [c] := fun c member => if_pos (ascii c member)
  rw [ofText, List.flatMap_congr own, List.flatMap_singleton']

end Phrasebook.Text
