import Mathlib
import Phrasebook.Data.Json
import Phrasebook.Proofs.Text.Letter
import Phrasebook.Proofs.Literal

namespace Phrasebook.Data.Json

open Literal (isHex readHex hexValue)
open Letter (joinSurrogates not_isHighSurrogate shown_toNat)

theorem hexDigit_facts : ∀ n < 16, isHex (escaped.hexDigit n) = true ∧
    hexValue (escaped.hexDigit n) = n ∧ 0x20 ≤ (escaped.hexDigit n).toNat := by decide

theorem decimalDigit_facts : ∀ n < 2, isHex (Char.ofNat ('0'.toNat + n)) = true ∧
    hexValue (Char.ofNat ('0'.toNat + n)) = n ∧ 0x20 ≤ (Char.ofNat ('0'.toNat + n)).toNat := by
  decide

inductive Written (c : Char) : List Char → Prop where
  | plain : c ≠ '"' → c ≠ '\\' → 0x20 ≤ c.toNat → Written c [c]
  | letter (l : Char) : l ≠ 'u' → 0x20 ≤ l.toNat → letterEscape? l = some c → Written c ['\\', l]
  | number (high low : Char) : isHex high = true → isHex low = true → 0x20 ≤ high.toNat →
      0x20 ≤ low.toNat → hexValue high * 16 + hexValue low = c.toNat → c.toNat < 0x20 →
      Written c ['\\', 'u', '0', '0', high, low]

theorem written_escaped (c : Char) : Written c (escaped c) := by
  unfold escaped
  split
  · exact .letter '"' (by decide) (by decide) rfl
  · exact .letter '\\' (by decide) (by decide) rfl
  · exact .letter 'n' (by decide) (by decide) rfl
  · exact .letter 'r' (by decide) (by decide) rfl
  · exact .letter 't' (by decide) (by decide) rfl
  · exact .letter 'b' (by decide) (by decide) rfl
  · exact .letter 'f' (by decide) (by decide) rfl
  · rename_i hq hb _ _ _ _ _
    split
    · rename_i control
      obtain ⟨hh, vh, ph⟩ := decimalDigit_facts (c.toNat / 16) (by omega)
      obtain ⟨hl, vl, pl⟩ := hexDigit_facts (c.toNat % 16) (by omega)
      refine .number _ _ hh hl ph pl ?_ control
      rw [vh, vl]
      omega
    · exact .plain hq hb (by omega)

theorem Written.le_toNat {c d : Char} {spelling : List Char} (written : Written c spelling)
    (h : d ∈ spelling) : 0x20 ≤ d.toNat := by
  cases written with
  | plain _ _ hc =>
    rcases List.mem_singleton.1 h with rfl
    exact hc
  | letter l _ hl _ =>
    simp only [List.mem_cons, List.not_mem_nil, or_false] at h
    rcases h with rfl | rfl
    · decide
    · exact hl
  | number high low _ _ hh hl _ _ =>
    simp only [List.mem_cons, List.not_mem_nil, or_false] at h
    rcases h with rfl | rfl | rfl | rfl | rfl | rfl
    · decide
    · decide
    · decide
    · decide
    · exact hh
    · exact hl

theorem le_toNat_of_mem_quote {text : List Char} {d : Char} (h : d ∈ quote text) :
    0x20 ≤ d.toNat := by
  simp only [quote, List.mem_append, List.mem_cons, List.mem_flatMap, List.not_mem_nil,
    or_false] at h
  rcases h with (rfl | ⟨c, _, hd⟩) | rfl
  · decide
  · exact (written_escaped c).le_toNat hd
  · decide

theorem escape_number {c high low : Char} (opening : List Char) {rest : List Char}
    (hh : isHex high = true) (hl : isHex low = true)
    (hv : hexValue high * 16 + hexValue low = c.toNat) (hr : rest ≠ []) :
    escape opening ('u' :: '0' :: '0' :: high :: low :: rest) = .ok ([c], 5) := by
  have zero : isHex '0' = true := by decide
  have digits : hex4? ('0' :: '0' :: high :: low :: rest) = some c.toNat := by
    simp [hex4?, readHex, zero, hh, hl, show hexValue '0' = 0 by decide, hv]
  have unit : codeUnit ('u' :: '0' :: '0' :: high :: low :: rest) = .ok c.toNat := by
    simp [codeUnit, hr, digits]
  have joined : joinSurrogates [c.toNat] = [c] := congrArg (fun c => [c]) (shown_toNat c)
  simp only [escape, BEq.rfl, if_true, unit, not_isHighSurrogate, joined, Bind.bind, Except.bind,
    Bool.false_eq_true, if_false]
  rfl

theorem Written.stringFrom_append {c : Char} {spelling : List Char} (written : Written c spelling)
    {opening text value rest : List Char} (h : stringFrom opening 0 text = .ok (value, rest)) :
    stringFrom opening 0 (spelling ++ text) = .ok (c :: value, rest) := by
  cases written with
  | plain hq hb hc =>
    have hn : ¬ c.toNat < 0x20 := by omega
    simp [stringFrom, hq, hb, hn, h, Bind.bind, Except.bind, Pure.pure, Except.pure]
  | letter l hu _ hl =>
    have denoted : escape opening (l :: text) = .ok ([c], 1) := by simp [escape, hu, hl]
    simp [stringFrom, denoted, h, Bind.bind, Except.bind, Pure.pure, Except.pure]
  | number high low hh hl _ _ hv _ =>
    have ht : text ≠ [] := by
      rintro rfl
      simp [stringFrom, refuse] at h
    have denoted := escape_number opening hh hl hv ht
    simp [stringFrom, denoted, h, Bind.bind, Except.bind, Pure.pure, Except.pure]

theorem stringFrom_flatMap_escaped (opening text rest : List Char) :
    stringFrom opening 0 (text.flatMap escaped ++ '"' :: rest) = .ok (text, rest) := by
  induction text with
  | nil => simp [stringFrom]
  | cons c text ih =>
    rw [List.flatMap_cons, List.append_assoc]
    exact (written_escaped c).stringFrom_append ih

theorem quoted_quote (text rest : List Char) : quoted (quote text ++ rest) = .ok (text, rest) := by
  simp only [quoted, quote, List.cons_append, List.append_assoc, List.nil_append, List.drop_one,
    List.tail_cons]
  exact stringFrom_flatMap_escaped _ text rest

theorem value_quote (n : Nat) (text : String) (rest : List Char) :
    value (n + 1) (quote text.toList ++ rest) = .ok (.string text, rest) := by
  have read := quoted_quote text.toList rest
  simp only [quote, List.cons_append] at read ⊢
  simp only [value, read, Bind.bind, Except.bind, Pure.pure, Except.pure, String.ofList_toList]

theorem skipBlanks_append {blanks : List Char} (h : ∀ c ∈ blanks, isBlank c = true)
    (text : List Char) : skipBlanks (blanks ++ text) = skipBlanks text := by
  rw [skipBlanks, List.dropWhile_append_of_pos h]
  rfl

theorem skipBlanks_cons {c : Char} (h : isBlank c = false) (text : List Char) :
    skipBlanks (c :: text) = c :: text := by simp [skipBlanks, h]

theorem skipBlanks_quote (text rest : List Char) :
    skipBlanks (quote text ++ rest) = quote text ++ rest := skipBlanks_cons (by decide) _

section

variable {n : Nat} {text key behindKey behindColon behindValue : List Char} {data : Data}
  (begins : text.head? = some '"') (readKey : quoted text = .ok (key, behindKey))
  (colon : skipBlanks behindKey = ':' :: behindColon)
  (readValue : value n (skipBlanks behindColon) = .ok (data, behindValue))

include begins readKey colon readValue

theorem members_last {rest : List Char} (closing : skipBlanks behindValue = '\x7d' :: rest) :
    members (n + 1) text = .ok ([(.string (String.ofList key), data)], rest) := by
  obtain ⟨inside, rfl⟩ := List.head?_eq_some_iff.1 begins
  simp only [members, readKey, colon, readValue, closing, Bind.bind, Except.bind, Pure.pure,
    Except.pure]

theorem members_more {behindComma rest : List Char} {others : List (Data × Data)}
    (comma : skipBlanks behindValue = ',' :: behindComma)
    (readOthers : members n (skipBlanks behindComma) = .ok (others, rest)) :
    members (n + 1) text = .ok ((.string (String.ofList key), data) :: others, rest) := by
  obtain ⟨inside, rfl⟩ := List.head?_eq_some_iff.1 begins
  rw [members]
  simp only [readKey, colon, readValue, comma, readOthers, Bind.bind, Except.bind, Pure.pure,
    Except.pure]

end

theorem value_object {n : Nat} {text rest : List Char} {entries : List (Data × Data)}
    (begins : (skipBlanks text).head? = some '"')
    (read : members n (skipBlanks text) = .ok (entries, rest)) :
    value (n + 1) ('\x7b' :: text) = .ok (.mapping entries, rest) := by
  obtain ⟨inside, h⟩ := List.head?_eq_some_iff.1 begins
  rw [h] at read
  simp only [value, h, Bind.bind, Except.bind, Pure.pure, Except.pure]
  split
  · rename_i closing
    exact absurd (List.cons.inj closing).1 (by decide)
  · simp only [read]

theorem parse_object {text rest : List Char} {entries : List (Data × Data)}
    (begins : (skipBlanks text).head? = some '"')
    (read : members (text.length + 1) (skipBlanks text) = .ok (entries, rest))
    (behind : skipBlanks rest = []) : parse ('\x7b' :: text) = .ok (.mapping entries) := by
  have noMark : (('\x7b' :: text).head? == some byteOrderMark) = false := by
    rw [List.head?_cons]
    decide
  simp only [parse, document, noMark, Bool.false_eq_true, if_false, List.length_cons,
    skipBlanks_cons (show isBlank '\x7b' = false by decide), value_object begins read, behind,
    Bind.bind, Except.bind, Pure.pure, Except.pure, Except.mapError]

end Phrasebook.Data.Json
