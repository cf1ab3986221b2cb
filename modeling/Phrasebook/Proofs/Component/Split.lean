import Phrasebook.Proofs.Component.Attributes
import Phrasebook.Proofs.Component.Section

namespace Phrasebook.Component

variable {tag : Tag} {accepts : List Char → Prop} {text : List Char}

/-- The section lies in the text between its tags, and no block of its class begins before it. -/
structure Cuts (tag : Tag) (accepts : List Char → Prop) (text : List Char) (part : Section) : Prop where
  content : (text.drop part.contentStart).take part.content.length = part.content
  framed : ∃ opening attributes closing, Block.Opens tag attributes opening ∧ accepts attributes ∧
    Block.Closes tag closing ∧
    (text.drop part.start).take (part.stop - part.start) = opening ++ (part.content ++ closing) ∧
    part.contentStart = part.start + opening.length ∧
    part.stop = part.contentStart + part.content.length + closing.length
  inside : part.stop ≤ text.length
  unclosed : ∀ closing, Block.Closes tag closing → ¬ closing <:+: part.content
  first : ∀ index < part.start, ¬ Block.Begins tag accepts (text.drop index)

theorem Cuts.of_earliest {accept : Block → Bool} {found : Nat × Block}
    (decides : ∀ block, accept block = true ↔ accepts block.attributes)
    (h : Block.Earliest tag accept text found) : Cuts tag accepts text (Section.ofBlock found) := by
  obtain ⟨start, block⟩ := found
  obtain ⟨here, accepted, first⟩ := h
  have here : Block.at? tag (text.drop start) = some block := here
  obtain ⟨kind, ⟨opening, closing, rest, opens, closes, whole⟩, unclosed⟩ := Block.at?_eq_some here
  have contentStart : block.contentStart = opening.length := by
    rw [Block.contentStart, kind, opens.length_eq]
  have length : block.length = opening.length + block.content.length + closing.length := by
    rw [Block.length, contentStart, kind, closes.length_eq, Nat.add_assoc _ _ 3]
  have stop : start + block.length ≤ text.length := by
    have long := Block.length_le_of_at? here
    have positive := block.length_pos
    rw [List.length_drop] at long
    omega
  refine ⟨?_, ⟨opening, block.attributes, closing, opens, (decides block).1 accepted, closes, ?_, ?_, ?_⟩,
    stop, unclosed, fun index before begins => ?_⟩
  · show (text.drop (start + block.contentStart)).take block.content.length = block.content
    rw [← List.drop_drop, whole, contentStart, List.drop_left, List.take_left]
  · show (text.drop start).take (start + block.length - start) = opening ++ (block.content ++ closing)
    have joined : opening ++ (block.content ++ (closing ++ rest)) =
        (opening ++ (block.content ++ closing)) ++ rest := by simp only [List.append_assoc]
    rw [whole, joined, List.take_left']
    simp only [List.length_append]
    omega
  · show start + block.contentStart = start + opening.length
    rw [contentStart]
  · show start + block.length = start + block.contentStart + block.content.length + closing.length
    omega
  · obtain ⟨other, there, accepted'⟩ := Block.begins_iff.1 begins
    have after := first (index, other) there ((decides other).2 accepted')
    exact absurd before (Nat.not_lt_of_le after)

/-- What is found of a class of blocks: its first one, or nothing where there is none. -/
def Selects (tag : Tag) (accepts : List Char → Prop) (text : List Char) : Option Section → Prop
  | some part => Cuts tag accepts text part
  | none => ∀ index, ¬ Block.Begins tag accepts (text.drop index)

theorem selects_first? {accept : Block → Bool}
    (decides : ∀ block, accept block = true ↔ accepts block.attributes) (text : List Char) :
    Selects tag accepts text ((Block.first? tag accept text).map Section.ofBlock) := by
  cases found : Block.first? tag accept text with
  | some one => exact .of_earliest decides (Block.first?_eq_some_iff.1 found)
  | none =>
    intro index begins
    obtain ⟨block, here, accepted⟩ := Block.begins_iff.1 begins
    have here : Block.IsIn tag text (index, block) := here
    have refused := Block.firstFrom?_none found here
    rw [(decides block).2 accepted] at refused
    cases refused

/-- The module script is the first script whose tag carries the marker, the other script the first one
    whose tag does not, and the style the first style block; each is cut out where it says. -/
theorem ofText_selects (text : List Char) :
    Selects .script CarriesMarker text (Sections.ofText text).moduleScript ∧
      Selects .script (fun attributes => ¬ CarriesMarker attributes) text (Sections.ofText text).script ∧
      Selects .style (fun _ => True) text (Sections.ofText text).style := by
  refine ⟨selects_first? (fun block => ?_) text, selects_first? (fun block => ?_) text,
    selects_first? (fun block => ?_) text⟩
  · exact marksModule_iff block.attributes
  · rw [Bool.not_eq_true', ← Bool.not_eq_true, marksModule_iff]
  · exact ⟨fun _ => trivial, fun _ => rfl⟩

end Phrasebook.Component
