import Phrasebook.Component.Region
import Phrasebook.Proofs.Component.Block
import Phrasebook.Proofs.Text.Blank
import Phrasebook.Proofs.Text.Encoding

namespace Phrasebook.Component

open Text

def Assigns (spells : List Char → Prop) (text : List Char) : Prop :=
  ∃ before after opening word closing rest,
    text = before ++ '=' :: (after ++ opening :: (word ++ closing :: rest)) ∧
      (∀ c ∈ before, isBlank c = true) ∧ (∀ c ∈ after, isBlank c = true) ∧
      isQuote opening = true ∧ spells word ∧ isQuote closing = true

theorem isBlank_of_isQuote {c : Char} (h : isQuote c = true) : isBlank c = false := by
  simp only [isQuote, Bool.or_eq_true, beq_iff_eq] at h
  rcases h with rfl | rfl <;> decide

theorem isAssigned_iff {sameWord : List Char → List Char → Option (List Char)} {word : List Char}
    {spells : List Char → Prop}
    (reads : ∀ text rest, sameWord word text = some rest ↔ ∃ read, spells read ∧ text = read ++ rest)
    (text : List Char) : isAssigned sameWord word text = true ↔ Assigns spells text := by
  constructor
  · intro h
    unfold isAssigned at h
    obtain ⟨before, whole, blank⟩ := exists_dropWhile_isBlank text
    split at h
    · rename_i text' sign
      rw [sign] at whole
      obtain ⟨after, whole', blank'⟩ := exists_dropWhile_isBlank text'
      split at h
      · rename_i opening text'' quote
        rw [quote] at whole'
        simp only [Bool.and_eq_true, Option.any_eq_true] at h
        obtain ⟨opened, rest, named, closing, first, closed⟩ := h
        obtain ⟨read, spelled, rfl⟩ := (reads _ _).1 named
        obtain ⟨rest, rfl⟩ := List.head?_eq_some_iff.1 first
        exact ⟨before, after, opening, read, closing, rest, by rw [whole, whole'], blank, blank', opened,
          spelled, closed⟩
      · cases h
    · cases h
  · rintro ⟨before, after, opening, read, closing, rest, rfl, blank, blank', opened, spelled, closed⟩
    have sign := dropWhile_isBlank_append blank ('=' :: (after ++ opening :: (read ++ closing :: rest)))
      (by simp; decide)
    have quote := dropWhile_isBlank_append blank' (opening :: (read ++ closing :: rest))
      (by simpa using isBlank_of_isQuote opened)
    unfold isAssigned
    simp only [sign, quote]
    simp [opened, closed, (reads _ _).2 ⟨read, spelled, rfl⟩]

section Module

theorem anySuffix_eq_true_iff {begins : List Char → Bool} {text : List Char} :
    anySuffix begins text = true ↔ ∃ rest, rest <:+ text ∧ begins rest = true := by
  induction text with
  | nil => simp [anySuffix, List.suffix_nil]
  | cons c text ih =>
    rw [anySuffix, Bool.or_eq_true, ih]
    simp only [List.suffix_cons_iff, or_and_right, exists_or, exists_eq_left]

/-- The marker of a module script: the context `module`, or `module` as an attribute by itself. -/
inductive BeginsMarker : List Char → Prop
  | context {name text : List Char} (named : Spells "context".toList name)
      (assigned : Assigns (Spells "module".toList) text) : BeginsMarker (name ++ text)
  | bare {blank : Char} {name text : List Char} (apart : isBlank blank = true)
      (named : Spells "module".toList name)
      (ends : ∀ c ∈ text.head?, isBlank c = true ∨ c = '/' ∨ c = '=') :
      BeginsMarker (blank :: (name ++ text))

def CarriesMarker (attributes : List Char) : Prop := ∃ rest, rest <:+ attributes ∧ BeginsMarker rest

theorem beginsModuleMarker_iff (text : List Char) :
    beginsModuleMarker text = true ↔ BeginsMarker text := by
  have assigned : ∀ rest, isAssigned afterWord? "module".toList rest = true ↔
      Assigns (Spells "module".toList) rest := isAssigned_iff fun _ _ => afterWord?_eq_some_iff
  unfold beginsModuleMarker
  rw [Bool.or_eq_true]
  constructor
  · rintro (context | bare)
    · obtain ⟨rest, named, assigns⟩ := (Option.any_eq_true _ _).1 context
      obtain ⟨name, spells, rfl⟩ := afterWord?_eq_some_iff.1 named
      exact .context spells ((assigned rest).1 assigns)
    · split at bare
      · cases bare
      · rw [Bool.and_eq_true] at bare
        obtain ⟨apart, named⟩ := bare
        obtain ⟨rest, named, ends⟩ := (Option.any_eq_true _ _).1 named
        obtain ⟨name, spells, rfl⟩ := afterWord?_eq_some_iff.1 named
        refine .bare apart spells fun c first => ?_
        simpa [Option.mem_def.1 first, or_assoc] using ends
  · intro h
    cases h with
    | @context name text named assigns =>
      have found : afterWord? "context".toList (name ++ text) = some text :=
        afterWord?_eq_some_iff.2 ⟨name, named, rfl⟩
      refine .inl ?_
      rw [found]
      exact (assigned text).2 assigns
    | @bare blank name text apart named ends =>
      have found : afterWord? "module".toList (name ++ text) = some text :=
        afterWord?_eq_some_iff.2 ⟨name, named, rfl⟩
      refine .inr ?_
      simp only [found, apart, Option.any_some, Bool.true_and]
      cases text with
      | nil => rfl
      | cons c text => simpa [or_assoc] using ends c rfl

theorem marksModule_iff (attributes : List Char) :
    marksModule attributes = true ↔ CarriesMarker attributes := by
  simp only [marksModule, anySuffix_eq_true_iff, beginsModuleMarker_iff, CarriesMarker]

end Module

section Typed

/-- A mention of the language in the attributes of a script tag, as splitting reads it: white space may
    stand around the equals sign, and the quotes may differ. -/
structure Mention (attributes : List Char) where
  before : List Char
  left : List Char
  right : List Char
  opening : Char
  closing : Char
  after : List Char
  spelled : attributes = before ++ ("lang".toList ++
    (left ++ '=' :: (right ++ opening :: ("ts".toList ++ closing :: after))))
  blank : ∀ c ∈ left ++ right, isBlank c = true
  quoted : isQuote opening = true ∧ isQuote closing = true

namespace Mention

variable {attributes : List Char}

/-- No white space around the equals sign, and the same quote at both ends. -/
structure IsPlain (mention : Mention attributes) : Prop where
  tight : mention.left = [] ∧ mention.right = []
  paired : mention.opening = mention.closing

/-- The mention is no end of a longer word. -/
def IsApart (mention : Mention attributes) : Prop :=
  ∀ c ∈ mention.before.getLast?, isWord c = false

theorem exists_iff_assigns {front rest : List Char} (whole : attributes = front ++ ("lang".toList ++ rest)) :
    (∃ mention : Mention attributes, mention.before = front) ↔ Assigns (· = "ts".toList) rest := by
  constructor
  · rintro ⟨⟨before, left, right, opening, closing, after, spelled, blank, quoted⟩, rfl⟩
    rw [List.forall_mem_append] at blank
    refine ⟨left, right, opening, _, closing, after, ?_, blank.1, blank.2, quoted.1, rfl, quoted.2⟩
    exact List.append_cancel_left (List.append_cancel_left (whole.symm.trans spelled))
  · rintro ⟨left, right, opening, _, closing, after, rfl, blank, blank', opened, rfl, closed⟩
    exact ⟨⟨front, left, right, opening, closing, after, whole,
      List.forall_mem_append.2 ⟨blank, blank'⟩, opened, closed⟩, rfl⟩

end Mention

theorem declaresTypesFrom_iff (before : Option Char) (text : List Char) :
    declaresTypesFrom before text = true ↔
      ∃ front rest, text = front ++ ("lang".toList ++ rest) ∧
        (∀ c ∈ front.getLast?.or before, isWord c = false) ∧ Assigns (· = "ts".toList) rest := by
  have assigned : ∀ rest, isAssigned List.isPrefixOf? "ts".toList rest = true ↔
      Assigns (· = "ts".toList) rest :=
    isAssigned_iff fun text rest => by simp [List.isPrefixOf?_eq_some_iff_append_eq, eq_comm]
  induction text generalizing before with
  | nil =>
    refine ⟨nofun, ?_⟩
    rintro ⟨front, rest, whole, _⟩
    simp at whole
  | cons c text ih =>
    have last : ∀ front : List Char, (c :: front).getLast?.or before = front.getLast?.or (some c) := by
      intro front
      rw [List.getLast?_cons]
      cases front.getLast? <;> rfl
    have here : (((before.all (!isWord ·)) && (("lang".toList.isPrefixOf? (c :: text)).any
        (isAssigned List.isPrefixOf? "ts".toList))) = true) ↔
        ∃ rest, c :: text = "lang".toList ++ rest ∧ (∀ c ∈ before, isWord c = false) ∧
          Assigns (· = "ts".toList) rest := by
      simp only [Bool.and_eq_true, Option.all_eq_true, Bool.not_eq_true', Option.any_eq_true,
        List.isPrefixOf?_eq_some_iff_append_eq, assigned, Option.mem_def]
      constructor
      · rintro ⟨apart, rest, whole, assigns⟩
        exact ⟨rest, whole.symm, apart, assigns⟩
      · rintro ⟨rest, whole, apart, assigns⟩
        exact ⟨apart, rest, whole.symm, assigns⟩
    refine (Bool.or_eq_true_iff.trans (or_congr here (ih (some c)))).trans ?_
    constructor
    · rintro (⟨rest, whole, apart, assigns⟩ | ⟨front, rest, rfl, apart, assigns⟩)
      · exact ⟨[], rest, whole, apart, assigns⟩
      · exact ⟨c :: front, rest, rfl, (last front) ▸ apart, assigns⟩
    · rintro ⟨front, rest, whole, apart, assigns⟩
      cases front with
      | nil => exact .inl ⟨rest, whole, apart, assigns⟩
      | cons d front =>
        obtain ⟨rfl, rfl⟩ := List.cons.inj whole
        exact .inr ⟨front, rest, rfl, (last front) ▸ apart, assigns⟩

theorem declaresTypes_iff (attributes : List Char) :
    declaresTypes attributes = true ↔ ∃ mention : Mention attributes, mention.IsApart := by
  rw [declaresTypes, declaresTypesFrom_iff]
  simp only [Option.or_none]
  constructor
  · rintro ⟨front, rest, whole, apart, assigns⟩
    obtain ⟨mention, rfl⟩ := (Mention.exists_iff_assigns whole).2 assigns
    exact ⟨mention, apart⟩
  · rintro ⟨mention, apart⟩
    exact ⟨mention.before, _, mention.spelled, apart,
      (Mention.exists_iff_assigns mention.spelled).1 ⟨mention, rfl⟩⟩

theorem occursIn_iff {part bytes : List UInt8} : occursIn part bytes = true ↔ part <:+: bytes := by
  induction bytes with
  | nil => rw [occursIn, List.isEmpty_iff, List.infix_nil]
  | cons b bytes ih => rw [occursIn, Bool.or_eq_true, List.isPrefixOf_iff_prefix, ih, List.infix_cons_iff]

def startTag (attributes : List Char) : List Char := "<script".toList ++ (attributes ++ ['>'])

theorem infix_startTag_iff {part attributes : List Char} (unbracketed : '>' ∉ 'l' :: part) :
    'l' :: part <:+: startTag attributes ↔ 'l' :: part <:+: attributes := by
  constructor
  · intro h
    have outside : 'l' ∉ "<script".toList := by decide
    rcases List.infix_concat_iff.1 (infix_of_cons_infix_append outside h) with last | inside
    · rcases List.suffix_concat_iff.1 last with empty | ⟨front, whole, _⟩
      · cases empty
      · rw [whole] at unbracketed
        exact absurd (List.mem_append_right _ (List.mem_singleton.2 rfl)) unbracketed
    · exact inside
  · intro h
    have inside : attributes <:+: startTag attributes :=
      ⟨"<script".toList, ['>'], List.append_assoc _ _ _⟩
    exact h.trans inside

theorem exists_isPlain_iff {attributes : List Char} :
    (∃ mention : Mention attributes, mention.IsPlain) ↔
      ∃ quote, isQuote quote = true ∧
        "lang".toList ++ '=' :: quote :: ("ts".toList ++ [quote]) <:+: attributes := by
  constructor
  · rintro ⟨⟨before, left, right, opening, closing, after, spelled, blank, quoted⟩, ⟨tight, paired⟩⟩
    obtain ⟨rfl, rfl⟩ : left = [] ∧ right = [] := tight
    obtain rfl : opening = closing := paired
    exact ⟨opening, quoted.1, before, after, by simp [spelled]⟩
  · rintro ⟨quote, quoted, before, after, rfl⟩
    exact ⟨⟨before, [], [], quote, quote, after, by simp, nofun, quoted, quoted⟩, ⟨rfl, rfl⟩, rfl⟩

theorem tagDeclaresTypes_iff (attributes : List Char) :
    tagDeclaresTypes (encode (startTag attributes)) = true ↔
      ∃ mention : Mention attributes, mention.IsPlain := by
  have double : occursIn (ascii "lang=\"ts\"") (encode (startTag attributes)) = true ↔
      "lang=\"ts\"".toList <:+: attributes :=
    occursIn_iff.trans ((infix_encode_iff (by simp)).trans (infix_startTag_iff (by decide)))
  have single : occursIn (ascii "lang='ts'") (encode (startTag attributes)) = true ↔
      "lang='ts'".toList <:+: attributes :=
    occursIn_iff.trans ((infix_encode_iff (by simp)).trans (infix_startTag_iff (by decide)))
  rw [tagDeclaresTypes, Bool.or_eq_true, double, single, exists_isPlain_iff]
  constructor
  · rintro (found | found)
    · exact ⟨'"', rfl, found⟩
    · exact ⟨'\'', rfl, found⟩
  · rintro ⟨quote, quoted, found⟩
    rw [isQuote, Bool.or_eq_true, beq_iff_eq, beq_iff_eq] at quoted
    rcases quoted with rfl | rfl
    · exact .inl found
    · exact .inr found

end Typed

end Phrasebook.Component
