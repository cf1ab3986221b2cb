import Phrasebook.Text.Utf8

namespace Phrasebook.Text

theorem toNat_ofNat_byte {n : Nat} (h : n < 256) : (UInt8.ofNat n).toNat = n := by
  simp [UInt8.toNat_ofNat', Nat.mod_eq_of_lt h]

theorem follow_next {low high b : UInt8} (hl : low.toNat ≤ b.toNat) (hh : b.toNat ≤ high.toNat)
    (n bits : Nat) (bytes : List UInt8) :
    follow (n + 1) low high bits (b :: bytes) =
      follow n 0x80 0xBF (bits * 64 + b.toNat % 64) bytes := by
  have inRange : (low ≤ b && b ≤ high) = true := by simp [UInt8.le_iff_toNat_le, hl, hh]
  simp only [follow, inRange, if_true]

def continuation (n : Nat) : UInt8 := UInt8.ofNat (n % 64 + 0x80)

theorem toNat_continuation (n : Nat) : (continuation n).toNat = n % 64 + 0x80 :=
  toNat_ofNat_byte (by omega)

theorem follow_continuation (n bits v : Nat) (bytes : List UInt8) :
    follow (n + 1) 0x80 0xBF bits (continuation v :: bytes) =
      follow n 0x80 0xBF (bits * 64 + v % 64) bytes := by
  have hv := toNat_continuation v
  rw [follow_next (by simp [hv]) (by simp [hv]; omega), hv]
  congr 2
  omega

theorem lead?_one {n : Nat} (h : n < 0x80) :
    lead? (UInt8.ofNat n) = some ⟨0, 0x80, 0xBF, n⟩ := by
  simp only [lead?, toNat_ofNat_byte (show n < 256 by omega), h, if_true]

theorem lead?_two {n : Nat} (hl : 2 ≤ n) (hh : n < 32) :
    lead? (UInt8.ofNat (n + 0xC0)) = some ⟨1, 0x80, 0xBF, n⟩ := by
  simp only [lead?, toNat_ofNat_byte (show n + 0xC0 < 256 by omega)]
  rw [if_neg (by omega), if_neg (by omega), if_pos (by omega), Nat.add_sub_cancel]

/-- Three bytes: the second is from a smaller range where the form would be overlong or the value a
    surrogate. -/
theorem lead?_three {n m : Nat} (hh : n < 16) (hm : m < 64) (overlong : n = 0 → 32 ≤ m)
    (surrogate : n = 13 → m < 32) :
    ∃ low high, lead? (UInt8.ofNat (n + 0xE0)) = some ⟨2, low, high, n⟩ ∧
      low.toNat ≤ m + 0x80 ∧ m + 0x80 ≤ high.toNat := by
  simp only [lead?, toNat_ofNat_byte (show n + 0xE0 < 256 by omega)]
  rw [if_neg (by omega), if_neg (by omega), if_neg (by omega)]
  by_cases h0 : n = 0
  · have := overlong h0
    exact ⟨0xA0, 0xBF, by simp [h0], by simp; omega, by simp; omega⟩
  rw [if_neg (by omega)]
  by_cases h13 : n = 13
  · have := surrogate h13
    exact ⟨0x80, 0x9F, by simp [h13], by simp, by simp; omega⟩
  · rw [if_neg (by omega), if_pos (by omega), Nat.add_sub_cancel]
    exact ⟨0x80, 0xBF, rfl, by simp, by simp; omega⟩

/-- Four bytes: the second is from a smaller range where the form would be overlong or the value
    above the last one. -/
theorem lead?_four {n m : Nat} (hh : n ≤ 4) (hm : m < 64) (overlong : n = 0 → 16 ≤ m)
    (last : n = 4 → m < 16) :
    ∃ low high, lead? (UInt8.ofNat (n + 0xF0)) = some ⟨3, low, high, n⟩ ∧
      low.toNat ≤ m + 0x80 ∧ m + 0x80 ≤ high.toNat := by
  simp only [lead?, toNat_ofNat_byte (show n + 0xF0 < 256 by omega)]
  rw [if_neg (by omega), if_neg (by omega), if_neg (by omega), if_neg (by omega),
    if_neg (by omega), if_neg (by omega)]
  by_cases h0 : n = 0
  · have := overlong h0
    exact ⟨0x90, 0xBF, by simp [h0], by simp; omega, by simp; omega⟩
  rw [if_neg (by omega)]
  by_cases h4 : n = 4
  · have := last h4
    exact ⟨0x80, 0x8F, by simp [h4], by simp, by simp; omega⟩
  · rw [if_pos (by omega), Nat.add_sub_cancel]
    exact ⟨0x80, 0xBF, rfl, by simp, by simp; omega⟩

theorem toNat_scalar (c : Char) : c.toNat < 0xD800 ∨ 0xDFFF < c.toNat ∧ c.toNat < 0x110000 := c.valid

theorem decodeHead_utf8EncodeChar (c : Char) :
    ∃ b bytes, String.utf8EncodeChar c = b :: bytes ∧
      ∀ rest, decodeHead b (bytes ++ rest) = (some c, rest) := by
  have valid := toNat_scalar c
  have back := Char.ofNat_toNat c
  have e : c.val.toNat = c.toNat := rfl
  generalize hv : c.toNat = v at *
  by_cases h1 : v ≤ 0x7f
  · refine ⟨UInt8.ofNat v, [], ?_, fun rest => ?_⟩
    · simp [String.utf8EncodeChar, e, h1]
    · simp [decodeHead, lead?_one (show v < 0x80 by omega), follow, back]
  by_cases h2 : v ≤ 0x7ff
  · refine ⟨UInt8.ofNat (v / 64 + 0xC0), [continuation v], ?_, fun rest => ?_⟩
    · simp [String.utf8EncodeChar, e, h1, h2, continuation,
        Nat.mod_eq_of_lt (show v / 64 < 32 by omega)]
    · have joined : v / 64 * 64 + v % 64 = v := by omega
      simp only [decodeHead, lead?_two (show 2 ≤ v / 64 by omega) (show v / 64 < 32 by omega),
        List.cons_append, List.nil_append, follow_continuation, follow, joined, back]
  by_cases h3 : v ≤ 0xffff
  · obtain ⟨low, high, hlead, hl, hh⟩ := lead?_three (n := v / 4096) (m := v / 64 % 64)
      (by omega) (by omega) (by omega) (by omega)
    refine ⟨UInt8.ofNat (v / 4096 + 0xE0), [continuation (v / 64), continuation v], ?_,
      fun rest => ?_⟩
    · simp [String.utf8EncodeChar, e, h1, h2, h3, continuation,
        Nat.mod_eq_of_lt (show v / 4096 < 16 by omega)]
    · rw [← toNat_continuation] at hl hh
      have joined : (v / 4096 * 64 + (v / 64 % 64 + 128) % 64) * 64 + v % 64 = v := by omega
      simp only [decodeHead, hlead, List.cons_append, List.nil_append]
      rw [follow_next hl hh, toNat_continuation, follow_continuation, joined]
      simp only [follow, back]
  · obtain ⟨low, high, hlead, hl, hh⟩ := lead?_four (n := v / 262144) (m := v / 4096 % 64)
      (by omega) (by omega) (by omega) (by omega)
    refine ⟨UInt8.ofNat (v / 262144 + 0xF0),
      [continuation (v / 4096), continuation (v / 64), continuation v], ?_, fun rest => ?_⟩
    · simp [String.utf8EncodeChar, e, h1, h2, h3, continuation,
        Nat.mod_eq_of_lt (show v / 262144 < 8 by omega)]
    · rw [← toNat_continuation] at hl hh
      have joined : ((v / 262144 * 64 + (v / 4096 % 64 + 128) % 64) * 64 + v / 64 % 64) * 64 +
          v % 64 = v := by omega
      simp only [decodeHead, hlead, List.cons_append, List.nil_append]
      rw [follow_next hl hh, toNat_continuation, follow_continuation, follow_continuation, joined]
      simp only [follow, back]

section Ascii

theorem encode_cons (c : Char) (text : List Char) :
    encode (c :: text) = String.utf8EncodeChar c ++ encode text := List.flatMap_cons

theorem utf8EncodeChar_of_lt {c : Char} (small : c.toNat < 0x80) :
    String.utf8EncodeChar c = [UInt8.ofNat c.toNat] := by
  have value : c.val.toNat = c.toNat := rfl
  rw [String.utf8EncodeChar, if_pos (by omega)]
  simp [value]

theorem le_of_mem_utf8EncodeChar {c : Char} (large : 0x80 ≤ c.toNat) {b : UInt8}
    (member : b ∈ String.utf8EncodeChar c) : 0x80 ≤ b.toNat := by
  have value : c.val.toNat = c.toNat := rfl
  have past : ∀ n, 0x80 ≤ n → n < 256 → b = UInt8.ofNat n → 0x80 ≤ b.toNat := by
    rintro n low high rfl
    rwa [toNat_ofNat_byte high]
  rw [String.utf8EncodeChar, if_neg (by omega)] at member
  split at member
  · simp only [List.mem_cons, List.not_mem_nil, or_false] at member
    rcases member with h | h <;> exact past _ (by omega) (by omega) h
  · split at member
    · simp only [List.mem_cons, List.not_mem_nil, or_false] at member
      rcases member with h | h | h <;> exact past _ (by omega) (by omega) h
    · simp only [List.mem_cons, List.not_mem_nil, or_false] at member
      rcases member with h | h | h | h <;> exact past _ (by omega) (by omega) h

theorem not_mem_utf8EncodeChar {c d : Char} (large : ¬ c.toNat < 0x80) (small : d.toNat < 0x80) :
    UInt8.ofNat d.toNat ∉ String.utf8EncodeChar c := by
  intro member
  have past := le_of_mem_utf8EncodeChar (Nat.le_of_not_lt large) member
  rw [toNat_ofNat_byte (by omega)] at past
  omega

theorem eq_of_byte_eq {c d : Char} (small : c.toNat < 0x80) (small' : d.toNat < 0x80)
    (same : UInt8.ofNat c.toNat = UInt8.ofNat d.toNat) : c = d := by
  have value := congrArg UInt8.toNat same
  rw [toNat_ofNat_byte (by omega), toNat_ofNat_byte (by omega)] at value
  exact Char.ext (UInt32.toNat_inj.1 value)

theorem prefix_of_prefix_encode {part text : List Char} (h : encode part <+: encode text) :
    part <+: text := by
  induction part generalizing text with
  | nil => exact List.nil_prefix
  | cons d part ih =>
    obtain ⟨after, whole⟩ := h
    obtain ⟨b, bytes, spelled, reads⟩ := decodeHead_utf8EncodeChar d
    rw [encode_cons, spelled, List.append_assoc, List.cons_append] at whole
    cases text with
    | nil => cases whole
    | cons c text =>
      obtain ⟨b', bytes', spelled', reads'⟩ := decodeHead_utf8EncodeChar c
      rw [encode_cons, spelled', List.cons_append] at whole
      obtain ⟨rfl, tail⟩ := List.cons.inj whole
      -- the same bytes, read as a character of either text
      have head := reads (encode part ++ after)
      rw [tail, reads', Prod.mk.injEq, Option.some_inj] at head
      exact List.cons_prefix_cons.2 ⟨head.1.symm, ih ⟨after, head.2.symm⟩⟩

theorem infix_of_cons_infix_append {α : Type} {a : α} {part front back : List α} (outside : a ∉ front)
    (h : a :: part <:+: front ++ back) : a :: part <:+: back := by
  rcases List.infix_append_iff.1 h with inside | later | ⟨left, right, split, suffix, first⟩
  · exact absurd (inside.subset List.mem_cons_self) outside
  · exact later
  · cases left with
    | nil =>
      rw [split]
      exact first.isInfix
    | cons b left =>
      obtain ⟨rfl, _⟩ := List.cons.inj split
      exact absurd (suffix.subset List.mem_cons_self) outside

theorem infix_of_infix_encode {part text : List Char} (ascii : ∀ c ∈ part, c.toNat < 0x80)
    (h : encode part <:+: encode text) : part <:+: text := by
  induction text with
  | nil =>
    cases part with
    | nil => exact List.infix_rfl
    | cons d part =>
      rw [encode_cons, utf8EncodeChar_of_lt (ascii d List.mem_cons_self)] at h
      cases List.infix_nil.1 h
  | cons c text ih =>
    by_cases small : c.toNat < 0x80
    · rw [encode_cons, utf8EncodeChar_of_lt small, List.singleton_append, List.infix_cons_iff] at h
      rcases h with front | later
      · have front : encode part <+: encode (c :: text) := by
          rw [encode_cons c text, utf8EncodeChar_of_lt small]
          exact front
        exact (prefix_of_prefix_encode front).isInfix
      · exact List.infix_cons (ih later)
    · cases part with
      | nil => exact List.nil_infix
      | cons d part =>
        have outside := not_mem_utf8EncodeChar small (ascii d List.mem_cons_self)
        have begins : encode (d :: part) = UInt8.ofNat d.toNat :: encode part := by
          rw [encode_cons, utf8EncodeChar_of_lt (ascii d List.mem_cons_self), List.singleton_append]
        rw [encode_cons c, begins] at h
        refine List.infix_cons (ih ?_)
        rw [begins]
        exact infix_of_cons_infix_append outside h

theorem infix_encode_iff {part text : List Char} (ascii : ∀ c ∈ part, c.toNat < 0x80) :
    encode part <:+: encode text ↔ part <:+: text := by
  refine ⟨infix_of_infix_encode ascii, ?_⟩
  rintro ⟨front, back, rfl⟩
  exact ⟨encode front, encode back, by simp [encode]⟩

end Ascii

theorem decodeFrom_encode (offset : Nat) (text : List Char) :
    decodeFrom offset (encode text) = .ok text := by
  induction text generalizing offset with
  | nil => simp [encode, decodeFrom]
  | cons c text ih =>
    obtain ⟨b, bytes, he, hd⟩ := decodeHead_utf8EncodeChar c
    have split : encode (c :: text) = b :: (bytes ++ encode text) := by
      simp [encode, he]
    rw [split, decodeFrom, hd]
    simp only [ih]
    rfl

theorem decode_encode (text : List Char) : decode (encode text) = .ok text :=
  decodeFrom_encode 0 text

theorem decodePieces_encode (text : List Char) : decodePieces (encode text) = text.map some := by
  induction text with
  | nil => simp [encode, decodePieces]
  | cons c text ih =>
    obtain ⟨b, bytes, he, hd⟩ := decodeHead_utf8EncodeChar c
    have split : encode (c :: text) = b :: (bytes ++ encode text) := by
      simp [encode, he]
    rw [split, decodePieces, hd, ih, List.map_cons]

theorem decodeLossy_encode (text : List Char) : decodeLossy (encode text) = text := by
  rw [decodeLossy, decodePieces_encode, List.map_map]
  exact List.map_id text

theorem unifyNewlines_of_not_mem {text : List Char} (h : '\r' ∉ text) :
    unifyNewlines text = text := by
  induction text with
  | nil => rfl
  | cons c text ih =>
    simp only [List.mem_cons, not_or] at h
    have hc : c ≠ '\r' := fun e => h.1 e.symm
    rw [unifyNewlines, ih h.2]
    all_goals simp_all

end Phrasebook.Text
