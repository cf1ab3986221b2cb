import Mathlib.Algebra.Group.Nat.Defs
import Mathlib.Data.List.Induction
import Mathlib.Data.List.TakeWhile
import Phrasebook.Literal
import Phrasebook.Proofs.Attempts

namespace Phrasebook.Literal

theorem backslash_ne_of_isHex {c : Char} (h : isHex c = true) : c ≠ '\\' := by
  rintro rfl
  exact absurd h (by decide)

theorem hexValue_lt {c : Char} (h : isHex c = true) : hexValue c < 16 := by
  have le_iff : ∀ a b : Char, a ≤ b ↔ a.toNat ≤ b.toNat := fun a b => UInt32.le_iff_toNat_le
  unfold isHex at h
  unfold hexValue
  simp only [Char.isDigit_iff_toNat, Bool.or_eq_true, Bool.and_eq_true, decide_eq_true_eq, le_iff,
    Char.reduceToNat] at h ⊢
  split
  · omega
  · split <;> omega

theorem readHex_lt {digits : List Char} (h : ∀ c ∈ digits, isHex c = true) :
    readHex digits < 16 ^ digits.length := by
  induction digits using List.reverseRecOn with
  | nil => decide
  | append_singleton digits c ih =>
    have front := ih fun d member => h d (List.mem_append_left _ member)
    have last := hexValue_lt (h c (by simp))
    have value : readHex (digits ++ [c]) = readHex digits * 16 + hexValue c := by simp [readHex]
    rw [value, List.length_append, List.length_singleton, Nat.pow_succ]
    omega

structure Excess (text digits after : List Char) : Prop where
  text : text = 'u' :: '\x7b' :: (digits ++ '\x7d' :: after)
  hex : ∀ c ∈ digits, isHex c = true
  past : lastCodePoint < readHex digits

/-- Read from the left, where a backslash takes the next character with it, the text has an escape for
    a code point past the last one. -/
inductive Overshoots : List Char → Prop
  | here {text digits after : List Char} (excess : Excess text digits after) : Overshoots ('\\' :: text)
  | plain {c : Char} {text : List Char} (plain : c ≠ '\\') (later : Overshoots text) :
      Overshoots (c :: text)
  | escaped {c : Char} {text : List Char} (later : Overshoots text) : Overshoots ('\\' :: c :: text)

theorem overshoots_cons_iff {c : Char} {text : List Char} (plain : c ≠ '\\') :
    Overshoots (c :: text) ↔ Overshoots text := by
  refine ⟨fun h => ?_, .plain plain⟩
  cases h with
  | here => exact absurd rfl plain
  | plain _ later => exact later
  | escaped => exact absurd rfl plain

theorem overshoots_escape_iff {c : Char} {text : List Char} :
    Overshoots ('\\' :: c :: text) ↔
      (∃ digits after, Excess (c :: text) digits after) ∨ Overshoots text := by
  constructor
  · intro h
    cases h with
    | here excess => exact .inl ⟨_, _, excess⟩
    | plain plain => exact absurd rfl plain
    | escaped later => exact .inr later
  · rintro (⟨digits, after, excess⟩ | later)
    · exact .here excess
    · exact .escaped later

theorem overshoots_append_iff {front text : List Char} (plain : ∀ c ∈ front, c ≠ '\\') :
    Overshoots (front ++ text) ↔ Overshoots text := by
  induction front with
  | nil => rfl
  | cons c front ih =>
    rw [List.forall_mem_cons] at plain
    exact (overshoots_cons_iff plain.1).trans (ih plain.2)

/-- What is known of an escape: it holds no backslash after its first character, and it is for a code
    point past the last one only if it has braces. -/
structure Escape.Reads (escape : Escape) (c : Char) (text : List Char) : Prop where
  body : ∃ front rest, text = front ++ rest ∧ escape.length = front.length + 1 ∧
    ∀ d ∈ front, d ≠ '\\'
  excess : (∃ code, escape.codePoint = some code ∧ lastCodePoint < code) ↔
    ∃ digits after, Excess (c :: text) digits after

theorem toNat_le_lastCodePoint (c : Char) : c.toNat ≤ lastCodePoint := by
  have valid : c.toNat.isValidChar := c.valid
  unfold Nat.isValidChar at valid
  unfold lastCodePoint
  omega

theorem simpleEscape_le {c : Char} {code : Nat} (h : simpleEscape c = some code) :
    code ≤ lastCodePoint := by
  unfold simpleEscape at h
  split at h
  all_goals cases h
  all_goals first
    | exact toNat_le_lastCodePoint _
    | decide

theorem takeWhile_isHex {digits : List Char} (hex : ∀ c ∈ digits, isHex c = true)
    (after : List Char) : (digits ++ '\x7d' :: after).takeWhile isHex = digits := by
  have brace : isHex '\x7d' = false := by decide
  rw [List.takeWhile_append_of_pos hex, List.takeWhile_cons_of_neg (by simp [brace]),
    List.append_nil]

theorem bracedEscape?_eq_some_iff {text : List Char} {escape : Escape} :
    bracedEscape? text = some escape ↔
      ∃ digits after, text = '\x7b' :: (digits ++ '\x7d' :: after) ∧ digits ≠ [] ∧
        (∀ c ∈ digits, isHex c = true) ∧ escape = ⟨digits.length + 3, some (readHex digits)⟩ := by
  constructor
  · intro h
    unfold bracedEscape? at h
    split at h
    · rename_i text
      dsimp only at h
      split at h
      · rename_i closed
        cases h
        simp only [Bool.and_eq_true, Bool.not_eq_true', List.isEmpty_eq_false_iff, beq_iff_eq] at closed
        have whole := List.prefix_iff_eq_append.1 (List.takeWhile_prefix isHex (l := text))
        cases rest : text.drop (text.takeWhile isHex).length with
        | nil =>
          rw [rest] at closed
          cases closed.2
        | cons c after =>
          rw [rest] at closed whole
          cases closed.2
          exact ⟨_, after, by rw [whole], closed.1, fun d member => (List.mem_takeWhile_imp member), rfl⟩
      · cases h
    · cases h
  · rintro ⟨digits, after, rfl, filled, hex, rfl⟩
    simp [bracedEscape?, takeWhile_isHex hex, filled]

theorem fixedEscape?_eq_some {n : Nat} {text : List Char} {escape : Escape}
    (h : fixedEscape? n text = some escape) :
    ∃ digits after, text = digits ++ after ∧ digits.length = n ∧ (∀ c ∈ digits, isHex c = true) ∧
      escape = ⟨n + 1, some (readHex digits)⟩ := by
  unfold fixedEscape? at h
  dsimp only at h
  split at h
  · rename_i full
    cases h
    obtain ⟨after, front⟩ := List.takeWhile_prefix isHex (l := text.take n)
    refine ⟨_, after ++ text.drop n, ?_, full, fun d member => List.mem_takeWhile_imp member, rfl⟩
    rw [← List.append_assoc, front, List.take_append_drop]
  · cases h

theorem Excess.braced {c : Char} {text digits after : List Char} (h : Excess (c :: text) digits after) :
    c = 'u' ∧ bracedEscape? text = some ⟨digits.length + 3, some (readHex digits)⟩ := by
  obtain ⟨spelled, hex, past⟩ := h
  cases spelled
  have filled : digits ≠ [] := by
    rintro rfl
    exact absurd past (by decide)
  exact ⟨rfl, bracedEscape?_eq_some_iff.2 ⟨digits, after, rfl, filled, hex, rfl⟩⟩

theorem not_excess_of_unbraced {c : Char} {text : List Char}
    (unbraced : c = 'u' → bracedEscape? text = none) :
    ¬ ∃ digits after, Excess (c :: text) digits after := by
  rintro ⟨_, _, excess⟩
  obtain ⟨letter, braced⟩ := excess.braced
  rw [unbraced letter] at braced
  cases braced

theorem reads_braced {text : List Char} {escape : Escape} (h : bracedEscape? text = some escape) :
    escape.Reads 'u' text := by
  have whole := h
  obtain ⟨digits, after, rfl, filled, hex, rfl⟩ := bracedEscape?_eq_some_iff.1 h
  refine ⟨⟨'\x7b' :: (digits ++ ['\x7d']), after, by simp, by simp, ?_⟩, ?_⟩
  · simp only [List.forall_mem_cons, List.forall_mem_append]
    exact ⟨by decide, fun d member => backslash_ne_of_isHex (hex d member), by decide, nofun⟩
  · constructor
    · rintro ⟨code, same, past⟩
      cases same
      exact ⟨digits, after, rfl, hex, past⟩
    · rintro ⟨digits', after', excess⟩
      have same := excess.braced.2
      rw [whole] at same
      exact ⟨readHex digits', by rw [Option.some.inj same], excess.past⟩

theorem reads_fixed {n : Nat} {c : Char} {text : List Char} {escape : Escape} (short : n ≤ 4)
    (h : fixedEscape? n text = some escape) (unbraced : c = 'u' → bracedEscape? text = none) :
    escape.Reads c text := by
  obtain ⟨digits, after, rfl, length, hex, rfl⟩ := fixedEscape?_eq_some h
  refine ⟨⟨digits, after, rfl, congrArg (· + 1) length.symm,
    fun d member => backslash_ne_of_isHex (hex d member)⟩, ?_⟩
  constructor
  · rintro ⟨code, same, past⟩
    cases same
    have bound := readHex_lt hex
    have power : 16 ^ digits.length ≤ 16 ^ 4 := Nat.pow_le_pow_right (by decide) (length ▸ short)
    unfold lastCodePoint at past
    omega
  · exact fun excess => absurd excess (not_excess_of_unbraced unbraced)

theorem reads_simple {c : Char} {text : List Char} (unbraced : c = 'u' → bracedEscape? text = none) :
    Escape.Reads ⟨1, simpleEscape c⟩ c text := by
  refine ⟨⟨[], text, rfl, rfl, nofun⟩, ?_⟩
  constructor
  · rintro ⟨code, same, past⟩
    exact absurd (simpleEscape_le same) (Nat.not_le_of_lt past)
  · exact fun excess => absurd excess (not_excess_of_unbraced unbraced)

theorem reads_escape? {c : Char} {text : List Char} {escape : Escape}
    (h : escape? (c :: text) = some escape) : escape.Reads c text := by
  unfold escape? at h
  split at h
  · cases h
  · rename_i spelled
    cases spelled
    cases h
    refine ⟨⟨['\n'], _, rfl, rfl, by simp⟩, ?_⟩
    exact ⟨nofun, fun ⟨_, _, excess⟩ => absurd excess.braced.1 (by decide)⟩
  · rename_i spelled
    cases spelled
    cases h
    by_cases letter : c = 'u'
    · subst letter
      cases braced : bracedEscape? text with
      | some escape => simpa using reads_braced braced
      | none =>
        cases fixed : fixedEscape? 4 text with
        | some escape => simpa using reads_fixed (by decide) fixed fun _ => braced
        | none => simpa using reads_simple fun _ => braced
    · have unbraced : c = 'u' → bracedEscape? text = none := fun same => absurd same letter
      by_cases other : c = 'x'
      · subst other
        cases fixed : fixedEscape? 2 text with
        | some escape => simpa using reads_fixed (by decide) fixed unbraced
        | none => simpa using reads_simple unbraced
      · simpa [letter, other] using reads_simple unbraced

theorem Escape.Reads.overshoots_drop_iff {escape : Escape} {c : Char} {text : List Char}
    (h : escape.Reads c text) : Overshoots ((c :: text).drop escape.length) ↔ Overshoots text := by
  obtain ⟨front, rest, rfl, length, plain⟩ := h.body
  rw [length, List.drop_succ_cons, List.drop_left, overshoots_append_iff plain]

theorem fails_checkCodePoint_iff {code : Nat} : Fails (checkCodePoint code) ↔ lastCodePoint < code := by
  unfold checkCodePoint
  split
  · rename_i fine
    exact ⟨nofun, fun past => absurd past (Nat.not_lt_of_le fine)⟩
  · rename_i past
    refine ⟨fun _ => Nat.lt_of_not_le past, fun _ => ?_⟩
    split
    · exact fails_error _
    · exact fails_error _

theorem overshoots_backslash_iff {text : List Char} {escape : Escape} (h : escape? text = some escape) :
    Overshoots ('\\' :: text) ↔
      (∃ code, escape.codePoint = some code ∧ lastCodePoint < code) ∨
        Overshoots (text.drop escape.length) := by
  cases text with
  | nil => cases h
  | cons c text =>
    have reads := reads_escape? h
    rw [overshoots_escape_iff, reads.excess, reads.overshoots_drop_iff]

theorem not_overshoots_backslash {text : List Char} (h : escape? text = none) :
    ¬ Overshoots ('\\' :: text) := by
  unfold escape? at h
  split at h
  · intro overshoots
    cases overshoots with
    | here excess => cases excess.text
    | plain plain => exact plain rfl
  · cases h
  · cases h

theorem fails_codePointsFrom_iff (n : Nat) (text : List Char) :
    Fails (codePointsFrom n text) ↔ Overshoots (text.drop n) := by
  fun_induction codePointsFrom n text with
  | case1 n =>
    rw [List.drop_nil]
    exact ⟨nofun, nofun⟩
  | case2 n c text ih => exact ih
  | case3 c text backslash bare =>
    rw [List.drop_zero, beq_iff_eq.1 backslash]
    exact ⟨nofun, fun excess => absurd excess (not_overshoots_backslash bare)⟩
  | case4 c text backslash n escape ih =>
    rw [List.drop_zero, beq_iff_eq.1 backslash, overshoots_backslash_iff escape, ih]
    exact ⟨.inr, fun either => either.elim nofun id⟩
  | case5 c text backslash n code escape ih =>
    rw [List.drop_zero, beq_iff_eq.1 backslash, overshoots_backslash_iff escape, ← ih]
    have codes : (∃ code', some code = some code' ∧ lastCodePoint < code') ↔
        Fails (checkCodePoint code) := by simp [fails_checkCodePoint_iff]
    rw [codes]
    cases checkCodePoint code with
    | error fault => exact ⟨fun _ => .inl (fails_error fault), fun _ => fails_error fault⟩
    | ok code =>
      refine Iff.trans ?_ (or_iff_right (not_fails_ok code)).symm
      exact fails_map_iff (g := (code :: ·))
  | case6 c text plain ih =>
    rw [List.drop_zero, overshoots_cons_iff (by simpa using plain)]
    exact (fails_map_iff (g := (c.toNat :: ·))).trans ih

theorem fails_cook_iff (raw : List Char) : Fails (cook raw) ↔ Overshoots raw :=
  fails_map_iff.trans (fails_codePointsFrom_iff 0 raw)

end Phrasebook.Literal
