import Mathlib.Data.List.Basic
import Phrasebook.Text.Letter

namespace Phrasebook

/-- Reading all of a list undoes writing it, if reading undoes writing item by item. -/
theorem mapM_eq_some_iff {α β : Type} {read : α → Option β} {write : β → α}
    (undoes : ∀ {a b}, read a = some b ↔ a = write b) {as : List α} {bs : List β} :
    as.mapM read = some bs ↔ as = bs.map write := by
  induction as generalizing bs with
  | nil => simp [@eq_comm _ [] bs]
  | cons a as ih =>
    simp only [List.mapM_cons, Option.pure_def, Option.bind_eq_bind, Option.bind_eq_some_iff, undoes, ih,
      Option.some.injEq]
    constructor
    · rintro ⟨b, rfl, rest, rfl, rfl⟩
      rfl
    · intro written
      obtain ⟨b, rest, rfl, rfl, rfl⟩ := List.map_eq_cons_iff.1 written.symm
      exact ⟨b, rfl, rest, rfl, rfl⟩

namespace Letter

theorem char?_eq_some_iff {letter : Letter} {c : Char} : letter.char? = some c ↔ letter = char c := by
  cases letter <;> simp [char?]

theorem ofCodePoint_toNat (c : Char) : ofCodePoint c.toNat = char c := by
  have valid : c.toNat.isValidChar := c.valid
  rw [ofCodePoint, if_pos valid, Char.ofNat_toNat]

theorem codePoint_injective : Function.Injective codePoint := by
  -- A character is never a surrogate: its code point is below all of those, or above.
  have apart : ∀ (c : Char) (place : Fin 0x800), codePoint (char c) ≠ codePoint (surrogate place) := by
    intro c place same
    have valid : c.toNat.isValidChar := c.valid
    unfold Nat.isValidChar at valid
    simp only [codePoint] at same
    omega
  intro a b same
  cases a with
  | char c =>
    cases b with
    | char d => rw [Char.toNat_inj.1 same]
    | surrogate place => exact absurd same (apart c place)
  | surrogate place =>
    cases b with
    | char d => exact absurd same.symm (apart d place)
    | surrogate other =>
      simp only [codePoint] at same
      rw [Fin.ext (by omega : place.val = other.val)]

theorem shown_toNat (c : Char) : shown c.toNat = c := by
  have valid : c.toNat.isValidChar := c.valid
  rw [shown, if_pos valid, Char.ofNat_toNat]

theorem not_isHighSurrogate (c : Char) : isHighSurrogate c.toNat = false := by
  have valid : c.toNat.isValidChar := c.valid
  unfold Nat.isValidChar at valid
  simp only [isHighSurrogate, Bool.and_eq_false_iff, decide_eq_false_iff_not]
  omega

instance : Std.LawfulEqCmp (compareOn codePoint) where
  eq_of_compare same := codePoint_injective (Std.LawfulEqCmp.eq_of_compare same)

end Letter

namespace Wording

theorem ofChars_injective : Function.Injective ofChars :=
  List.map_injective_iff.2 fun _ _ same => Letter.char.inj same

theorem ofString_injective : Function.Injective ofString := fun _ _ same =>
  String.toList_inj.1 (ofChars_injective same)

@[simp] theorem ofString_inj {a b : String} : ofString a = ofString b ↔ a = b := ofString_injective.eq_iff

theorem ofString_append (a b : String) : ofString (a ++ b) = ofString a ++ ofString b := by
  simp [ofString, ofChars]

@[simp] theorem ofChars_eq_nil {text : List Char} : ofChars text = [] ↔ text = [] := List.map_eq_nil_iff

@[simp] theorem char_mem_ofChars {c : Char} {text : List Char} : .char c ∈ ofChars text ↔ c ∈ text :=
  List.mem_map_of_injective fun _ _ same => Letter.char.inj same

theorem ofChars_toNat (text : List Char) :
    (text.map Char.toNat).map Letter.ofCodePoint = ofChars text := by
  rw [List.map_map]
  exact List.map_congr_left fun c _ => Letter.ofCodePoint_toNat c

theorem text?_eq_some_iff {wording : Wording} {text : String} :
    wording.text? = some text ↔ wording = ofString text := by
  rw [text?, Option.map_eq_some_iff]
  constructor
  · rintro ⟨letters, read, rfl⟩
    rw [ofString, String.toList_ofList]
    exact (mapM_eq_some_iff @Letter.char?_eq_some_iff).1 read
  · intro same
    refine ⟨text.toList, ?_, String.ofList_toList⟩
    exact (mapM_eq_some_iff @Letter.char?_eq_some_iff).2 same

theorem mapM_text?_eq_some_iff {keys : List Wording} {texts : List String} :
    keys.mapM text? = some texts ↔ keys = texts.map ofString :=
  mapM_eq_some_iff @text?_eq_some_iff

theorem le_trans {a b c : Wording} (first : a.le b = true) (second : b.le c = true) : a.le c = true :=
  Std.TransCmp.isLE_trans first second

theorem le_total (a b : Wording) : (a.le b || b.le a) = true := by
  have swap : List.compareLex (compareOn Letter.codePoint) b a =
      (List.compareLex (compareOn Letter.codePoint) a b).swap := Std.OrientedCmp.eq_swap
  unfold le
  rw [swap]
  cases List.compareLex (compareOn Letter.codePoint) a b <;> rfl

theorem le_antisymm {a b : Wording} (first : a.le b = true) (second : b.le a = true) : a = b :=
  Std.LawfulEqCmp.eq_of_compare (Std.OrientedCmp.isLE_antisymm first second)

end Wording

end Phrasebook
