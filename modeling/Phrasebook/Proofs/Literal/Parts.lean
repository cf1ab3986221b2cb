import Mathlib.Data.Nat.Digits.Defs
import Phrasebook.Proofs.Text.Letter
import Phrasebook.Proofs.Literal

namespace Phrasebook.Literal

structure Digit where
  value : Fin 16
  capital : Bool

namespace Digit

def char (digit : Digit) : Char :=
  if digit.capital then (Nat.digitChar digit.value).toUpper else Nat.digitChar digit.value

def number (digits : List Digit) : Nat := Nat.ofDigits 16 (digits.reverse.map fun digit => digit.value.val)

def spelled (digits : List Digit) : List Char := digits.map char

theorem isHex_char (digit : Digit) : isHex digit.char = true := by
  have each : ∀ (value : Fin 16) (capital : Bool), isHex (char ⟨value, capital⟩) = true := by decide
  exact each digit.value digit.capital

theorem hexValue_char (digit : Digit) : hexValue digit.char = digit.value := by
  have each : ∀ (value : Fin 16) (capital : Bool), hexValue (char ⟨value, capital⟩) = value := by decide
  exact each digit.value digit.capital

theorem isHex_of_mem_spelled {digits : List Digit} : ∀ c ∈ spelled digits, isHex c = true := by
  intro c member
  obtain ⟨digit, _, rfl⟩ := List.mem_map.1 member
  exact digit.isHex_char

theorem length_spelled (digits : List Digit) : (spelled digits).length = digits.length := List.length_map ..

theorem readHex_spelled (digits : List Digit) : readHex (spelled digits) = number digits := by
  induction digits using List.reverseRecOn with
  | nil => rfl
  | append_singleton digits digit ih =>
    have read : readHex (spelled (digits ++ [digit])) = readHex (spelled digits) * 16 + digit.value := by
      simp [readHex, spelled, hexValue_char]
    have counted : number (digits ++ [digit]) = digit.value + 16 * number digits := by
      simp [number, Nat.ofDigits_cons]
    rw [read, counted, ih, Nat.mul_comm, Nat.add_comm]

theorem number_lt (digits : List Digit) : number digits < 16 ^ digits.length := by
  rw [← readHex_spelled, ← length_spelled]
  exact readHex_lt isHex_of_mem_spelled

end Digit

def controls : List (Char × Char) :=
  [('n', '\n'), ('t', '\t'), ('r', '\r'), ('b', '\x08'), ('f', '\x0c'), ('v', '\x0b'), ('0', '\x00')]

def lineEnds : List (List Char) := [['\n'], ['\r', '\n'], ['\u2028'], ['\u2029']]

/-- One part of the body of a quoted string. -/
inductive Part where
  | plain (c : Char) (bare : c ≠ '\\')
  | control (letter c : Char) (known : (letter, c) ∈ controls)
  | byte (high low : Digit)
  | word (first second third fourth : Digit)
      (valid : (Digit.number [first, second, third, fourth]).isValidChar)
  | braced (digits : List Digit) (filled : digits ≠ []) (valid : (Digit.number digits).isValidChar)
  | continuation (ending : List Char) (known : ending ∈ lineEnds)
  | other (c : Char) (uncontrolled : c ∉ controls.map Prod.fst) (inLine : [c] ∉ lineEnds)
      (unmarked : c ∉ ['u', 'x', '\r'])

/-- Digits in braces for a number past the last code point. -/
structure Beyond where
  digits : List Digit
  past : lastCodePoint < Digit.number digits

def bracedSpelling (digits : List Digit) : List Char :=
  '\\' :: 'u' :: '\x7b' :: (Digit.spelled digits ++ ['\x7d'])

namespace Part

def spelling : Part → List Char
  | plain c _ => [c]
  | control letter _ _ => ['\\', letter]
  | byte high low => '\\' :: 'x' :: Digit.spelled [high, low]
  | word first second third fourth _ => '\\' :: 'u' :: Digit.spelled [first, second, third, fourth]
  | braced digits _ _ => bracedSpelling digits
  | continuation ending _ => '\\' :: ending
  | other c _ _ _ => ['\\', c]

/-- What a part stands for. -/
def text : Part → List Char
  | plain c _ => [c]
  | control _ c _ => [c]
  | byte high low => [Char.ofNat (Digit.number [high, low])]
  | word first second third fourth _ => [Char.ofNat (Digit.number [first, second, third, fourth])]
  | braced digits _ _ => [Char.ofNat (Digit.number digits)]
  | continuation _ _ => []
  | other c _ _ _ => [c]

end Part

def Beyond.spelling (beyond : Beyond) : List Char := bracedSpelling beyond.digits

/-- The spelling of a part, or of a number that no character has. -/
def mixedSpelling (part : Part ⊕ Beyond) : List Char := part.elim Part.spelling Beyond.spelling

section Escapes

theorem codePointsFrom_length (front rest : List Char) :
    codePointsFrom front.length (front ++ rest) = codePointsFrom 0 rest := by
  induction front with
  | nil => rfl
  | cons c front ih =>
    rw [List.length_cons, List.cons_append, codePointsFrom, ih]

variable (front : List Char) {rest : List Char}

theorem codePointsFrom_of_bare (bare : escape? (front ++ rest) = some ⟨front.length, none⟩) :
    codePointsFrom 0 ('\\' :: (front ++ rest)) = codePointsFrom 0 rest := by
  rw [codePointsFrom, if_pos (beq_self_eq_true _), bare]
  exact codePointsFrom_length front rest

theorem codePointsFrom_of_coded {code : Nat}
    (coded : escape? (front ++ rest) = some ⟨front.length, some code⟩) :
    codePointsFrom 0 ('\\' :: (front ++ rest)) =
      checkCodePoint code >>= fun code => (code :: ·) <$> codePointsFrom 0 rest := by
  rw [codePointsFrom, if_pos (beq_self_eq_true _), coded]
  simp only [codePointsFrom_length]
  rfl

theorem codePointsFrom_of_valid {c : Char}
    (coded : escape? (front ++ rest) = some ⟨front.length, some c.toNat⟩) :
    codePointsFrom 0 ('\\' :: (front ++ rest)) = (c.toNat :: ·) <$> codePointsFrom 0 rest := by
  rw [codePointsFrom_of_coded front coded, checkCodePoint, if_pos (toNat_le_lastCodePoint c)]
  rfl

theorem fixedEscape?_spelled (digits : List Digit) (rest : List Char) :
    fixedEscape? digits.length (Digit.spelled digits ++ rest) =
      some ⟨digits.length + 1, some (Digit.number digits)⟩ := by
  have taken : ((Digit.spelled digits ++ rest).take digits.length).takeWhile isHex =
      Digit.spelled digits := by
    rw [List.take_left' (Digit.length_spelled digits), List.takeWhile_eq_self_iff]
    exact Digit.isHex_of_mem_spelled
  rw [fixedEscape?, taken, if_pos (Digit.length_spelled digits), Digit.readHex_spelled]

theorem bracedEscape?_digit (digit : Digit) (text : List Char) :
    bracedEscape? (digit.char :: text) = none := by
  cases found : bracedEscape? (digit.char :: text) with
  | none => rfl
  | some escape =>
    obtain ⟨digits, after, spelled, -⟩ := bracedEscape?_eq_some_iff.1 found
    have brace : isHex '\x7b' = true := (List.cons.inj spelled).1 ▸ digit.isHex_char
    exact absurd brace (by decide)

theorem bracedEscape?_spelled {digits : List Digit} (filled : digits ≠ []) (rest : List Char) :
    bracedEscape? ('\x7b' :: (Digit.spelled digits ++ '\x7d' :: rest)) =
      some ⟨digits.length + 3, some (Digit.number digits)⟩ := by
  refine bracedEscape?_eq_some_iff.2 ⟨Digit.spelled digits, rest, rfl, ?_, Digit.isHex_of_mem_spelled, ?_⟩
  · exact fun empty => filled (List.map_eq_nil_iff.1 empty)
  · rw [Digit.length_spelled, Digit.readHex_spelled]

theorem escape?_byte (high low : Digit) (rest : List Char) :
    escape? ('x' :: (Digit.spelled [high, low] ++ rest)) =
      some ⟨3, some (Digit.number [high, low])⟩ := by
  have fixed := fixedEscape?_spelled [high, low] rest
  simp only [List.length_cons, List.length_nil] at fixed
  simp [escape?, fixed]

theorem escape?_word (first second third fourth : Digit) (rest : List Char) :
    escape? ('u' :: (Digit.spelled [first, second, third, fourth] ++ rest)) =
      some ⟨5, some (Digit.number [first, second, third, fourth])⟩ := by
  have fixed := fixedEscape?_spelled [first, second, third, fourth] rest
  have unbraced : bracedEscape? (Digit.spelled [first, second, third, fourth] ++ rest) = none :=
    bracedEscape?_digit first _
  simp only [List.length_cons, List.length_nil] at fixed
  simp [escape?, fixed, unbraced]

theorem escape?_braced {digits : List Digit} (filled : digits ≠ []) (rest : List Char) :
    escape? ('u' :: '\x7b' :: (Digit.spelled digits ++ '\x7d' :: rest)) =
      some ⟨digits.length + 3, some (Digit.number digits)⟩ := by
  simp [escape?, bracedEscape?_spelled filled rest]

theorem escape?_other {c : Char} (uncontrolled : c ∉ controls.map Prod.fst) (inLine : [c] ∉ lineEnds)
    (unmarked : c ∉ ['u', 'x', '\r']) (rest : List Char) :
    escape? (c :: rest) = some ⟨1, some c.toNat⟩ := by
  simp only [controls, lineEnds, List.map_cons, List.map_nil, List.mem_cons, List.not_mem_nil, or_false,
    not_or, List.cons.injEq, and_true] at uncontrolled inLine unmarked
  have simple : simpleEscape c = some c.toNat := by
    unfold simpleEscape
    split <;> simp_all
  unfold escape?
  split <;> simp_all

end Escapes

theorem toNat_of_isValidChar {n : Nat} (valid : n.isValidChar) : (Char.ofNat n).toNat = n := by
  rw [Char.ofNat, dif_pos valid]
  rfl

theorem codePointsFrom_part (part : Part) (rest : List Char) :
    codePointsFrom 0 (part.spelling ++ rest) =
      (part.text.map Char.toNat ++ ·) <$> codePointsFrom 0 rest := by
  cases part with
  | plain c bare =>
    rw [Part.spelling, List.singleton_append, codePointsFrom, if_neg (by simpa using bare)]
    rfl
  | control letter c known =>
    simp only [controls, List.mem_cons, Prod.mk.injEq, List.not_mem_nil, or_false] at known
    rcases known with ⟨rfl, rfl⟩ | ⟨rfl, rfl⟩ | ⟨rfl, rfl⟩ | ⟨rfl, rfl⟩ | ⟨rfl, rfl⟩ | ⟨rfl, rfl⟩ |
      ⟨rfl, rfl⟩ <;> rfl
  | byte high low =>
    have bound := Digit.number_lt [high, low]
    have valid : (Digit.number [high, low]).isValidChar := by
      left
      simp only [List.length_cons, List.length_nil] at bound
      omega
    refine codePointsFrom_of_valid ('x' :: Digit.spelled [high, low]) ?_
    rw [toNat_of_isValidChar valid]
    exact escape?_byte high low rest
  | word first second third fourth valid =>
    refine codePointsFrom_of_valid ('u' :: Digit.spelled [first, second, third, fourth]) ?_
    rw [toNat_of_isValidChar valid]
    exact escape?_word first second third fourth rest
  | braced digits filled valid =>
    refine codePointsFrom_of_valid ('u' :: '\x7b' :: (Digit.spelled digits ++ ['\x7d'])) ?_
    rw [toNat_of_isValidChar valid]
    simpa [Digit.length_spelled] using escape?_braced filled rest
  | continuation ending known =>
    refine (codePointsFrom_of_bare ending ?_).trans (id_map _).symm
    simp only [lineEnds, List.mem_cons, List.not_mem_nil, or_false] at known
    rcases known with rfl | rfl | rfl | rfl <;> rfl
  | other c uncontrolled inLine unmarked =>
    exact codePointsFrom_of_valid [c] (escape?_other uncontrolled inLine unmarked rest)

theorem fails_codePointsFrom_beyond (beyond : Beyond) (rest : List Char) :
    Fails (codePointsFrom 0 (beyond.spelling ++ rest)) := by
  have filled : beyond.digits ≠ [] := by
    intro empty
    have past := beyond.past
    rw [empty] at past
    exact absurd past (by decide)
  have read : escape? (('u' :: '\x7b' :: (Digit.spelled beyond.digits ++ ['\x7d'])) ++ rest) =
      some ⟨('u' :: '\x7b' :: (Digit.spelled beyond.digits ++ ['\x7d'])).length,
        some (Digit.number beyond.digits)⟩ := by
    simpa [Digit.length_spelled] using escape?_braced filled rest
  obtain ⟨fault, refused⟩ := fails_checkCodePoint_iff.2 beyond.past
  refine ⟨fault, ?_⟩
  rw [Beyond.spelling, bracedSpelling, List.cons_append, codePointsFrom_of_coded _ read, refused]
  rfl

theorem codePointsFrom_parts (parts : List Part) :
    codePointsFrom 0 (parts.flatMap Part.spelling) = .ok ((parts.flatMap Part.text).map Char.toNat) := by
  induction parts with
  | nil => rfl
  | cons part parts ih =>
    rw [List.flatMap_cons, codePointsFrom_part, ih, List.flatMap_cons, List.map_append]
    rfl

theorem fails_codePointsFrom_mixed (mixed : List (Part ⊕ Beyond)) :
    Fails (codePointsFrom 0 (mixed.flatMap mixedSpelling)) ↔ ∃ beyond, Sum.inr beyond ∈ mixed := by
  induction mixed with
  | nil => exact ⟨nofun, nofun⟩
  | cons head mixed ih =>
    rw [List.flatMap_cons]
    cases head with
    | inl part =>
      have later : (∃ beyond, Sum.inr beyond ∈ Sum.inl part :: mixed) ↔ ∃ beyond, Sum.inr beyond ∈ mixed := by
        simp
      rw [mixedSpelling, Sum.elim_inl, codePointsFrom_part, later, ← ih]
      exact fails_map_iff
    | inr beyond =>
      exact ⟨fun _ => ⟨beyond, List.mem_cons_self⟩, fun _ => fails_codePointsFrom_beyond beyond _⟩

/-- Cooking undoes any mixture of spellings: parts cook to what they stand for, one after the other.
    With numbers past the last code point among them, a string denotes no text exactly if it has one. -/
theorem cook_mixed_spellings (parts : List Part) (mixed : List (Part ⊕ Beyond)) :
    cook (parts.flatMap Part.spelling) = .ok (.ofChars (parts.flatMap Part.text)) ∧
      (Fails (cook (mixed.flatMap mixedSpelling)) ↔ ∃ beyond, Sum.inr beyond ∈ mixed) := by
  constructor
  · rw [cook, codePointsFrom_parts]
    exact congrArg Except.ok (Wording.ofChars_toNat _)
  · exact fails_map_iff.trans (fails_codePointsFrom_mixed mixed)

end Phrasebook.Literal
