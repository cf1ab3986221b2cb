import Mathlib.Data.List.Forall2
import Mathlib.Data.List.TakeWhile
import Phrasebook.Component.Section

namespace Phrasebook.Component

def Spells (word read : List Char) : Prop := List.Forall₂ (fun letter c => sameLetter letter c = true) word read

theorem Spells.length_eq {word read : List Char} (h : Spells word read) : read.length = word.length :=
  (List.Forall₂.length_eq h).symm

theorem afterWord?_eq_some_iff {word text rest : List Char} :
    afterWord? word text = some rest ↔ ∃ read, Spells word read ∧ text = read ++ rest := by
  induction word generalizing text with
  | nil =>
    constructor
    · rintro ⟨⟩
      exact ⟨[], .nil, rfl⟩
    · rintro ⟨read, spells, rfl⟩
      cases spells
      rfl
  | cons letter word ih =>
    cases text with
    | nil =>
      refine ⟨nofun, ?_⟩
      rintro ⟨read, spells, empty⟩
      cases spells
      cases empty
    | cons c text =>
      unfold afterWord?
      constructor
      · intro h
        split at h
        · rename_i same
          obtain ⟨read, spells, rfl⟩ := ih.1 h
          exact ⟨c :: read, .cons same spells, rfl⟩
        · cases h
      · rintro ⟨read, spells, whole⟩
        cases spells with
        | cons same spells =>
          cases whole
          rw [if_pos same]
          exact ih.2 ⟨_, spells, rfl⟩

namespace Block

variable {tag : Tag}

structure Opens (tag : Tag) (attributes opening : List Char) : Prop where
  spelled : ∃ name, Spells tag.name name ∧ opening = '<' :: (name ++ (attributes ++ ['>']))
  apart : ∀ c ∈ attributes.head?, Text.isWord c = false
  inside : '>' ∉ attributes

def Closes (tag : Tag) (closing : List Char) : Prop :=
  ∃ name, Spells tag.name name ∧ closing = '<' :: '/' :: (name ++ ['>'])

theorem Opens.length_eq {attributes opening : List Char} (h : Opens tag attributes opening) :
    opening.length = tag.name.length + attributes.length + 2 := by
  obtain ⟨name, spells, rfl⟩ := h.spelled
  simp only [List.length_cons, List.length_append, List.length_nil, spells.length_eq]
  omega

theorem Closes.length_eq {closing : List Char} (h : Closes tag closing) :
    closing.length = tag.name.length + 3 := by
  obtain ⟨name, spells, rfl⟩ := h
  simp only [List.length_cons, List.length_append, List.length_nil, spells.length_eq]

theorem Closes.ne_nil {closing : List Char} (h : Closes tag closing) : closing ≠ [] := by
  obtain ⟨name, _, rfl⟩ := h
  exact List.cons_ne_nil _ _

theorem afterClosing?_eq_some_iff {text rest : List Char} :
    afterClosing? tag text = some rest ↔ ∃ closing, Closes tag closing ∧ text = closing ++ rest := by
  simp only [afterClosing?, Option.bind_eq_bind, Option.bind_eq_some_iff,
    List.isPrefixOf?_eq_some_iff_append_eq, afterWord?_eq_some_iff]
  constructor
  · rintro ⟨_, rfl, _, ⟨name, spells, rfl⟩, rfl⟩
    exact ⟨_, ⟨name, spells, rfl⟩, by simp⟩
  · rintro ⟨_, ⟨name, spells, rfl⟩, rfl⟩
    exact ⟨name ++ '>' :: rest, by simp, '>' :: rest, ⟨name, spells, rfl⟩, rfl⟩

theorem isSome_afterClosing? {closing : List Char} (h : Closes tag closing) (rest : List Char) :
    (afterClosing? tag (closing ++ rest)).isSome = true := by
  rw [afterClosing?_eq_some_iff.2 ⟨closing, h, rfl⟩]
  rfl

theorem beforeClosing?_eq_some {text content : List Char} (h : beforeClosing? tag text = some content) :
    (∃ closing rest, Closes tag closing ∧ text = content ++ (closing ++ rest)) ∧
      ∀ closing, Closes tag closing → ¬ closing <:+: content := by
  induction text generalizing content with
  | nil => cases h
  | cons c text ih =>
    unfold beforeClosing? at h
    split at h
    · rename_i closes
      cases h
      obtain ⟨rest, closed⟩ := Option.isSome_iff_exists.1 closes
      obtain ⟨closing, tagged, same⟩ := afterClosing?_eq_some_iff.1 closed
      exact ⟨⟨closing, rest, tagged, same⟩, fun _ tagged found => tagged.ne_nil (List.infix_nil.1 found)⟩
    · rename_i opened
      obtain ⟨inner, found, rfl⟩ := Option.map_eq_some_iff.1 h
      obtain ⟨⟨closing, rest, tagged, rfl⟩, unclosed⟩ := ih found
      refine ⟨⟨closing, rest, tagged, rfl⟩, fun other tagged' held => ?_⟩
      rcases List.infix_cons_iff.1 held with front | later
      · obtain ⟨tail, whole⟩ := front
        refine opened ?_
        have begins := isSome_afterClosing? tagged' (tail ++ (closing ++ rest))
        rwa [← List.append_assoc, whole] at begins
      · exact unclosed other tagged' later

theorem isSome_beforeClosing? {closing : List Char} (h : Closes tag closing) (content rest : List Char) :
    (beforeClosing? tag (content ++ (closing ++ rest))).isSome = true := by
  induction content with
  | nil =>
    have closes := isSome_afterClosing? h rest
    obtain ⟨name, _, rfl⟩ := h
    rw [List.nil_append, List.cons_append] at *
    rw [beforeClosing?, if_pos closes]
    rfl
  | cons c content ih =>
    rw [List.cons_append, beforeClosing?]
    split
    · rfl
    · rw [Option.isSome_map]
      exact ih

/-- A block is an opening tag, its content and a closing tag, and its content holds no closing tag. -/
theorem at?_eq_some {text : List Char} {block : Block} (h : at? tag text = some block) :
    block.tag = tag ∧
      (∃ opening closing rest, Opens tag block.attributes opening ∧ Closes tag closing ∧
        text = opening ++ (block.content ++ (closing ++ rest))) ∧
      ∀ closing, Closes tag closing → ¬ closing <:+: block.content := by
  simp only [at?, Option.bind_eq_bind, Option.bind_eq_some_iff,
    List.isPrefixOf?_eq_some_iff_append_eq, afterWord?_eq_some_iff] at h
  obtain ⟨_, rfl, inside, ⟨name, spells, rfl⟩, h⟩ := h
  split at h
  · cases h
  · rename_i apart
    simp only [Option.bind_eq_some_iff, List.isPrefixOf?_eq_some_iff_append_eq] at h
    obtain ⟨text, opened, content, closed, made⟩ := h
    obtain ⟨⟨closing, rest, tagged, rfl⟩, unclosed⟩ := beforeClosing?_eq_some closed
    cases made
    have whole := List.prefix_iff_eq_append.1 (List.takeWhile_prefix (· != '>') (l := inside))
    rw [← opened] at whole
    refine ⟨rfl, ⟨_, closing, rest, ⟨⟨name, spells, rfl⟩, fun c first => ?_, fun member => ?_⟩, tagged, ?_⟩,
      unclosed⟩
    · rw [← whole, List.head?_append, Option.mem_def.1 first] at apart
      simpa using apart
    · simpa using List.mem_takeWhile_imp member
    · simpa using whole.symm

theorem takeWhile_append_bracket {attributes : List Char} (inside : '>' ∉ attributes) (rest : List Char) :
    (attributes ++ '>' :: rest).takeWhile (· != '>') = attributes := by
  have plain : ∀ c ∈ attributes, (c != '>') = true := by
    intro c member
    rw [bne_iff_ne]
    rintro rfl
    exact inside member
  rw [List.takeWhile_append_of_pos plain, List.takeWhile_cons_of_neg (by simp), List.append_nil]

theorem exists_at?_eq_some {attributes opening closing : List Char} (opens : Opens tag attributes opening)
    (closes : Closes tag closing) (content rest : List Char) :
    ∃ block, at? tag (opening ++ (content ++ (closing ++ rest))) = some block ∧
      block.attributes = attributes := by
  obtain ⟨⟨name, spells, rfl⟩, apart, within⟩ := opens
  obtain ⟨inner, closed⟩ := Option.isSome_iff_exists.1 (isSome_beforeClosing? closes content rest)
  have ends : ((attributes ++ '>' :: (content ++ (closing ++ rest))).head?.any Text.isWord) = false := by
    cases attributes with
    | nil => exact (by decide : Text.isWord '>' = false)
    | cons c attributes => simpa using apart c rfl
  refine ⟨⟨tag, attributes, inner⟩, ?_, rfl⟩
  simp only [at?, Option.bind_eq_bind, Option.bind_eq_some_iff,
    List.isPrefixOf?_eq_some_iff_append_eq, afterWord?_eq_some_iff]
  refine ⟨name ++ (attributes ++ '>' :: (content ++ (closing ++ rest))), by simp,
    attributes ++ '>' :: (content ++ (closing ++ rest)), ⟨name, spells, rfl⟩, ?_⟩
  rw [if_neg (Bool.eq_false_iff.1 ends)]
  simp only [Option.bind_eq_some_iff, List.isPrefixOf?_eq_some_iff_append_eq]
  refine ⟨content ++ (closing ++ rest), ?_, inner, closed, ?_⟩
  · rw [takeWhile_append_bracket within, List.drop_left]
    rfl
  · rw [takeWhile_append_bracket within]
    rfl

def Begins (tag : Tag) (accepts : List Char → Prop) (text : List Char) : Prop :=
  ∃ opening attributes content closing rest, Opens tag attributes opening ∧ accepts attributes ∧
    Closes tag closing ∧ text = opening ++ (content ++ (closing ++ rest))

theorem begins_iff {accepts : List Char → Prop} {text : List Char} :
    Begins tag accepts text ↔ ∃ block, at? tag text = some block ∧ accepts block.attributes := by
  constructor
  · rintro ⟨_, _, content, _, rest, opens, accepted, closes, rfl⟩
    obtain ⟨block, found, rfl⟩ := exists_at?_eq_some opens closes content rest
    exact ⟨block, found, accepted⟩
  · rintro ⟨block, found, accepted⟩
    obtain ⟨_, ⟨opening, closing, rest, opens, closes, whole⟩, _⟩ := at?_eq_some found
    exact ⟨opening, block.attributes, block.content, closing, rest, opens, accepted, closes, whole⟩

theorem length_le_of_at? {text : List Char} {block : Block} (h : at? tag text = some block) :
    block.length ≤ text.length := by
  obtain ⟨kind, ⟨opening, closing, rest, opens, closes, rfl⟩, _⟩ := at?_eq_some h
  unfold length contentStart
  simp only [kind, List.length_append, opens.length_eq, closes.length_eq]
  omega

end Block

end Phrasebook.Component
