import Phrasebook.Proofs.Component.Attributes
import Phrasebook.Proofs.Component.Section

namespace Phrasebook.Component

open Text Syntax

/-- A script element in the syntax tree of a text, and the script section that has its start tag. -/
structure SameScript (text attributes : List Char) (element : Node) (region : Region) (part : Section) :
    Prop where
  region : scriptRegion? (encode text) element = some region
  tag : ∃ tag, element.namedChildren.find? (·.kind == "start_tag") = some tag ∧
    tag.start = (encode (text.take part.start)).length ∧
    tag.bytes (encode text) = encode (startTag attributes)
  unbracketed : '>' ∉ attributes
  part : part ∈ (Sections.ofText text).moduleScript ∨ part ∈ (Sections.ofText text).script

/-- What a node covers from where a character begins is found in the text at that character. -/
theorem prefix_of_bytes_eq {text part : List Char} {start : Nat} {node : Node}
    (starts : node.start = (encode (text.take start)).length)
    (same : node.bytes (encode text) = encode part) : part <+: text.drop start := by
  have whole : encode text = encode (text.take start) ++ encode (text.drop start) := by
    rw [encode, encode, encode, ← List.flatMap_append, List.take_append_drop]
  have covered : encode part <+: (encode text).drop node.start := by
    rw [← same]
    exact List.take_prefix _ _
  rw [whole, starts, List.drop_left] at covered
  exact prefix_of_prefix_encode covered

theorem startTag_eq (attributes : List Char) :
    startTag attributes = '<' :: (Tag.script.name ++ (attributes ++ ['>'])) := by
  have front : "<script".toList = '<' :: Tag.script.name := by decide
  exact congrArg (· ++ (attributes ++ ['>'])) front

theorem Block.attributes_eq_of_startTag {text attributes : List Char} {block : Block}
    (begins : startTag attributes <+: text) (unbracketed : '>' ∉ attributes)
    (here : Block.at? .script text = some block) : block.attributes = attributes := by
  obtain ⟨rest, rfl⟩ := begins
  obtain ⟨_, ⟨_, _, _, ⟨⟨name, spells, rfl⟩, _, inside⟩, _, whole⟩, _⟩ := Block.at?_eq_some here
  rw [startTag_eq] at whole
  simp only [List.cons_append, List.append_assoc, List.nil_append, List.cons.injEq, true_and] at whole
  have tails := List.append_inj_right whole spells.length_eq.symm
  have same := congrArg (List.takeWhile (· != '>')) tails
  rw [Block.takeWhile_append_bracket unbracketed, Block.takeWhile_append_bracket inside] at same
  exact same.symm

namespace SameScript

variable {text attributes : List Char} {element : Node} {region : Region} {part : Section}

theorem region_typed (same : SameScript text attributes element region part) :
    region.typed = tagDeclaresTypes (encode (startTag attributes)) := by
  obtain ⟨raw, _, made⟩ := Option.bind_eq_some_iff.1 same.region
  obtain ⟨tag, found, _, bytes⟩ := same.tag
  cases made
  simp only [found, Option.map_some, bytes, Option.any_some]

theorem part_typed (same : SameScript text attributes element region part) :
    part.typed = declaresTypes attributes := by
  have selected : ∃ accept, part ∈ (Block.first? .script accept text).map Section.ofBlock :=
    same.part.elim (fun chosen => ⟨_, chosen⟩) fun chosen => ⟨_, chosen⟩
  obtain ⟨accept, chosen⟩ := selected
  obtain ⟨⟨start, block⟩, first, rfl⟩ := Option.map_eq_some_iff.1 chosen
  have here : Block.at? .script (text.drop start) = some block := (Block.first?_eq_some_iff.1 first).here
  obtain ⟨tag, _, starts, bytes⟩ := same.tag
  have begins : startTag attributes <+: text.drop start := prefix_of_bytes_eq starts bytes
  have kind : block.tag = .script := (Block.at?_eq_some here).1
  show (block.tag == .script && declaresTypes block.attributes) = declaresTypes attributes
  rw [Block.attributes_eq_of_startTag begins same.unbracketed here, kind]
  rfl

end SameScript

/-- The syntax tree takes a script for typed if the language is mentioned in so many words, and splitting
    if it is mentioned by a word of its own; the two agree where each mention is of both kinds or none. -/
theorem typed_iff {text attributes : List Char} {element : Node} {region : Region} {part : Section}
    (same : SameScript text attributes element region part) :
    (region.typed = true ↔ ∃ mention : Mention attributes, mention.IsPlain) ∧
      (part.typed = true ↔ ∃ mention : Mention attributes, mention.IsApart) ∧
      ((∀ mention : Mention attributes, mention.IsPlain ↔ mention.IsApart) →
        region.typed = part.typed) := by
  have byTag : region.typed = true ↔ ∃ mention : Mention attributes, mention.IsPlain := by
    rw [same.region_typed, tagDeclaresTypes_iff]
  have bySplit : part.typed = true ↔ ∃ mention : Mention attributes, mention.IsApart := by
    rw [same.part_typed, declaresTypes_iff]
  exact ⟨byTag, bySplit, fun alike =>
    Bool.eq_iff_iff.2 (byTag.trans ((exists_congr alike).trans bySplit.symm))⟩

def typedTag (gap : Nat) : Node :=
  .branch "start_tag" 0
    [.leaf "<" false 0 1, .leaf "tag_name" true 1 7,
      .branch "attribute" 0
        [.leaf "attribute_name" true 8 12, .leaf "=" false (12 + gap) (13 + gap),
          .leaf "quoted_attribute_value" true (13 + 2 * gap) (17 + 2 * gap)],
      .leaf ">" false (17 + 2 * gap) (18 + 2 * gap)]

def typedScript (gap : Nat) : Node :=
  .branch "script_element" 0
    [typedTag gap, .leaf "raw_text" true (18 + 2 * gap) (24 + 2 * gap),
      .leaf "end_tag" true (24 + 2 * gap) (33 + 2 * gap)]

def plain : List Char := "<script lang=\"ts\">t('k')</script>".toList

def spaced : List Char := "<script lang = \"ts\">t('k')</script>".toList

theorem isPlain_and_isApart (mention : Mention " lang=\"ts\"".toList) :
    mention.IsPlain ∧ mention.IsApart := by
  obtain ⟨before, left, right, opening, closing, after, spelled, _, _⟩ := mention
  have lengths := congrArg List.length spelled
  simp at lengths
  cases before with
  | nil => simp at spelled
  | cons blank before =>
    rw [List.length_cons] at lengths
    obtain rfl : before = [] := List.length_eq_zero_iff.1 (by omega)
    obtain rfl : left = [] := List.length_eq_zero_iff.1 (by omega)
    obtain rfl : right = [] := List.length_eq_zero_iff.1 (by omega)
    simp at spelled
    obtain ⟨rfl, rfl, rfl, rfl⟩ := spelled
    refine ⟨⟨⟨rfl, rfl⟩, rfl⟩, ?_⟩
    rintro _ ⟨⟩
    decide

theorem sameScript_plain :
    SameScript plain " lang=\"ts\"".toList (typedScript 0) ⟨.script, 18, 24, true⟩
      ⟨"t('k')".toList, 0, 33, 18, true⟩ where
  region := by decide +kernel
  tag := ⟨typedTag 0, rfl, by decide +kernel, by decide +kernel⟩
  unbracketed := by decide
  part := .inr (by decide +kernel)

theorem typed_iff_plain :
    ∃ region part, SameScript plain " lang=\"ts\"".toList (typedScript 0) region part ∧
      region.typed = true ∧ region.typed = part.typed ∧
      (∃ mention : Mention " lang=\"ts\"".toList, mention.IsPlain) ∧
      ∃ mention : Mention " lang=\"ts\"".toList, mention.IsApart := by
  obtain ⟨byTag, bySplit, agree⟩ := typed_iff sameScript_plain
  exact ⟨_, _, sameScript_plain, rfl,
    agree fun mention => iff_of_true (isPlain_and_isApart mention).1 (isPlain_and_isApart mention).2,
    byTag.1 rfl, bySplit.1 rfl⟩

/-- With white space around the equals sign, splitting alone takes the script for typed. -/
theorem typed_spaced :
    ∃ region part, SameScript spaced " lang = \"ts\"".toList (typedScript 1) region part ∧
      region.typed = false ∧ part.typed = true := by
  have region : scriptRegion? (encode spaced) (typedScript 1) = some ⟨.script, 20, 26, false⟩ := by
    decide +kernel
  have part : ⟨"t('k')".toList, 0, 35, 20, true⟩ ∈ (Sections.ofText spaced).script := by decide +kernel
  have tag : (typedTag 1).bytes (encode spaced) = encode (startTag " lang = \"ts\"".toList) := by
    decide +kernel
  exact ⟨_, _, ⟨region, ⟨_, rfl, rfl, tag⟩, by decide, .inr part⟩, rfl, rfl⟩

end Phrasebook.Component
