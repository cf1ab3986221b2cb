import Phrasebook.Component.Scan
import Phrasebook.Proofs.Component.Section
import Phrasebook.Proofs.Convention.Dialect
import Phrasebook.Proofs.Text.Position

namespace Phrasebook.Component

open Text

/-- Some characters, none of them a line feed, have become spaces; where the first of them comes right
    after one that is left, it began a tag. -/
structure Blanked (text masked : List Char) : Prop where
  length_eq : masked.length = text.length
  changed : ∀ i : Nat, masked[i]? = text[i]? ∨ masked[i]? = some ' ' ∧ text[i]? ≠ some '\n'
  begun : ∀ (i : Nat) (c d : Char), masked[i]? = some c → c ≠ ' ' → c ≠ '\n' → text[i + 1]? = some d →
    masked[i + 1]? = some d ∨ d = '<'

namespace Blanked

variable {text masked : List Char}

theorem kept (h : Blanked text masked) {i : Nat} {c : Char} (found : masked[i]? = some c)
    (seen : c ≠ ' ') : text[i]? = some c := by
  rcases h.changed i with same | ⟨space, _⟩
  · rw [← same, found]
  · rw [found, Option.some.injEq] at space
    exact absurd space seen

theorem trans {again : List Char} (first : Blanked text masked) (second : Blanked masked again) :
    Blanked text again := by
  refine ⟨second.length_eq.trans first.length_eq, fun i => ?_, fun i c d found seen inline next => ?_⟩
  · rcases second.changed i with same | ⟨space, _⟩
    · rw [same]
      exact first.changed i
    · rcases first.changed i with same | ⟨space', other⟩
      · rename_i other
        exact .inr ⟨space, same ▸ other⟩
      · exact .inr ⟨space, other⟩
  · rcases first.begun i c d (second.kept found seen) seen inline next with same | opens
    · exact second.begun i c d found seen inline same
    · exact .inr opens

theorem drop (h : Blanked text masked) (n : Nat) : Blanked (text.drop n) (masked.drop n) := by
  refine ⟨by rw [List.length_drop, List.length_drop, h.length_eq], fun i => ?_, fun i c d => ?_⟩
  · rw [List.getElem?_drop, List.getElem?_drop]
    exact h.changed (n + i)
  · rw [List.getElem?_drop, List.getElem?_drop, List.getElem?_drop]
    exact h.begun (n + i) c d

theorem exists_cons {c : Char} (h : Blanked text (c :: masked)) :
    ∃ d rest, text = d :: rest ∧ (c ≠ ' ' → d = c) ∧ Blanked rest masked := by
  cases text with
  | nil => cases h.length_eq
  | cons d rest =>
    refine ⟨d, rest, rfl, fun seen => ?_, h.drop 1⟩
    exact Option.some.inj (h.kept (i := 0) rfl seen)

theorem exists_append {front back : List Char} (h : Blanked text (front ++ back)) :
    ∃ front' back', text = front' ++ back' ∧ (' ' ∉ front → front' = front) ∧ Blanked back' back := by
  induction front generalizing text with
  | nil => exact ⟨[], text, rfl, fun _ => rfl, h⟩
  | cons c front ih =>
    obtain ⟨d, rest, rfl, same, blanked⟩ := h.exists_cons
    obtain ⟨front', back', rfl, same', blanked'⟩ := ih blanked
    refine ⟨d :: front', back', rfl, fun seen => ?_, blanked'⟩
    rw [List.mem_cons, not_or] at seen
    rw [same fun space => seen.1 space.symm, same' seen.2]

theorem head?_after {front back back' : List Char} (h : Blanked (front ++ back) (front ++ back'))
    (filled : front ≠ []) (unspaced : ' ' ∉ front) (inline : '\n' ∉ front) :
    ∀ d ∈ back.head?, d ∈ back'.head? ∨ d = '<' := by
  intro d next
  have positive := List.length_pos_iff.2 filled
  have place : front.length - 1 + 1 = front.length := by omega
  have bound : front.length - 1 < front.length := by omega
  have last := List.getElem?_eq_getElem bound
  have member := List.mem_of_getElem? last
  have found : (front ++ back')[front.length - 1]? = front[front.length - 1]? :=
    List.getElem?_append_left bound
  have began := h.begun (front.length - 1) _ d (found.trans last) (ne_of_mem_of_not_mem member unspaced)
    (ne_of_mem_of_not_mem member inline)
  rw [place, List.getElem?_append_right (Nat.le_refl _), List.getElem?_append_right (Nat.le_refl _),
    Nat.sub_self, ← List.head?_eq_getElem?, ← List.head?_eq_getElem?] at began
  exact began next

end Blanked

namespace Block

variable {tag : Tag} {text masked : List Char}

def BeginsAny (tag : Tag) (text : List Char) : Prop := Begins tag (fun _ => True) text

theorem beginsAny_iff : BeginsAny tag text ↔ ∃ block, at? tag text = some block := by
  simp only [BeginsAny, begins_iff, and_true]

theorem BeginsAny.head?_eq (h : BeginsAny tag text) : text.head? = some '<' := by
  obtain ⟨_, _, _, _, _, opens, _, _, rfl⟩ := h
  obtain ⟨name, _, rfl⟩ := opens.spelled
  rfl

theorem not_mem_name {name : List Char} (spells : Spells tag.name name) {c : Char}
    (gap : c = ' ' ∨ c = '\n') : c ∉ name := by
  have unlike : ∀ letter ∈ tag.name, sameLetter letter c = false := by
    rcases gap with rfl | rfl <;> cases tag <;> simp [Tag.name, sameLetter]
  intro member
  obtain ⟨i, bound, rfl⟩ := List.mem_iff_getElem.1 member
  obtain ⟨length, each⟩ := List.forall₂_iff_get.1 spells
  have same := each i (length ▸ bound) bound
  rw [List.get_eq_getElem, List.get_eq_getElem, unlike _ (List.getElem_mem _)] at same
  cases same

/-- The first closing bracket of a text that has one ends an opening tag, if a name comes before it. -/
theorem exists_opens {name inside : List Char} (spells : Spells tag.name name)
    (apart : ∀ c ∈ (inside ++ ['>']).head?, isWord c = false) :
    ∃ attributes more, Opens tag attributes ('<' :: (name ++ (attributes ++ ['>']))) ∧
      inside ++ ['>'] = attributes ++ '>' :: more := by
  have ends : '>' ∈ inside ++ ['>'] := List.mem_append_right _ List.mem_cons_self
  obtain ⟨attributes, more, whole, outside⟩ := List.eq_append_cons_of_mem ends
  refine ⟨attributes, more, ⟨⟨name, spells, rfl⟩, fun c first => apart c ?_, outside⟩, whole⟩
  rw [whole, List.head?_append, Option.mem_def.1 first]
  rfl

theorem BeginsAny.of_blanked (h : BeginsAny tag masked) (blanked : Blanked text masked) :
    BeginsAny tag text := by
  obtain ⟨_, attributes, content, closing, rest, ⟨⟨name, spells, rfl⟩, apart, _⟩, _, closes, rfl⟩ := h
  have split : '<' :: (name ++ (attributes ++ ['>'])) ++ (content ++ (closing ++ rest)) =
      ('<' :: name) ++ (attributes ++ (['>'] ++ (content ++ (closing ++ rest)))) := by simp
  rw [split] at blanked
  have unspaced : ' ' ∉ '<' :: name := by simpa using not_mem_name spells (.inl rfl)
  have unspaced' : ' ' ∉ closing := by
    obtain ⟨name', spells', rfl⟩ := closes
    simpa using not_mem_name spells' (.inl rfl)
  obtain ⟨_, _, rfl, same, blanked₁⟩ := blanked.exists_append
  obtain ⟨inside, _, rfl, _, blanked₂⟩ := blanked₁.exists_append
  obtain ⟨_, _, rfl, same₂, blanked₃⟩ := blanked₂.exists_append
  obtain ⟨content', _, rfl, _, blanked₄⟩ := blanked₃.exists_append
  obtain ⟨_, rest', rfl, same₄, _⟩ := blanked₄.exists_append
  obtain rfl := same unspaced
  obtain rfl := same₂ (by decide)
  obtain rfl := (same₄ unspaced').symm
  have apart' : ∀ c ∈ (inside ++ ['>']).head?, isWord c = false := by
    intro c first
    have next : c ∈ (inside ++ (['>'] ++ (content' ++ (closing ++ rest')))).head? := by
      rw [← List.append_assoc, List.head?_append, Option.mem_def.1 first]
      rfl
    have inline : '\n' ∉ '<' :: name := by simpa using not_mem_name spells (.inr rfl)
    rcases blanked.head?_after (List.cons_ne_nil _ _) unspaced inline c next with kept | rfl
    · cases attributes with
      | nil =>
        cases kept
        decide
      | cons d attributes => exact apart c kept
    · decide
  obtain ⟨attributes', more, opens, whole⟩ := exists_opens spells apart'
  refine ⟨_, attributes', more ++ content', closing, rest', opens, trivial, closes, ?_⟩
  have joined := congrArg (· ++ (content' ++ (closing ++ rest'))) whole
  simpa using joined

theorem head?_of_isIn {found : Nat × Block} (here : IsIn tag text found) :
    text[found.1]? = some '<' := by
  have begins : BeginsAny tag (text.drop found.1) := beginsAny_iff.2 ⟨found.2, here⟩
  rw [← begins.head?_eq, List.head?_drop]

theorem eq_of_within_succ {i : Nat} (out : ¬ Within (blocks tag text) i)
    (inside : Within (blocks tag text) (i + 1)) : text[i + 1]? = some '<' := by
  obtain ⟨one, member, start, stop⟩ := inside
  have begins : one.1 = i + 1 := by
    by_contra differs
    exact out ⟨one, member, by omega, by omega⟩
  rw [← begins]
  exact head?_of_isIn (isIn_of_mem_blocks member)

theorem blankChar_cases (c : Char) : blankChar c = ' ' ∧ c ≠ '\n' ∨ blankChar c = '\n' ∧ c = '\n' := by
  by_cases feed : c = '\n'
  · subst feed
    exact .inr ⟨rfl, rfl⟩
  · exact .inl ⟨by simp [blankChar, feed], feed⟩

theorem rewrite_blank_eq (tag : Tag) (text : List Char) :
    rewrite tag blank text =
      text.mapIdx fun i c => if Within (blocks tag text) i then blankChar c else c := by
  apply List.ext_getElem?
  intro i
  rw [getElem?_rewrite_blank, List.getElem?_mapIdx]

theorem blanked_rewrite (tag : Tag) (text : List Char) : Blanked text (rewrite tag blank text) := by
  refine ⟨by rw [rewrite_blank_eq, List.length_mapIdx], fun i => ?_, fun i c d found seen inline next => ?_⟩
  · rw [getElem?_rewrite_blank]
    cases here : text[i]? with
    | none => exact .inl rfl
    | some c =>
      rw [Option.map_some]
      split
      · rcases blankChar_cases c with ⟨space, other⟩ | ⟨feed, same⟩
        · exact .inr ⟨by rw [space], by simpa using other⟩
        · exact .inl (by rw [feed, same])
      · exact .inl rfl
  · rw [getElem?_rewrite_blank, Option.map_eq_some_iff] at found
    obtain ⟨c', _, left⟩ := found
    have out : ¬ Within (blocks tag text) i := by
      intro inside
      rw [if_pos inside] at left
      rcases blankChar_cases c' with ⟨space, _⟩ | ⟨feed, _⟩
      · exact seen (left ▸ space)
      · exact inline (left ▸ feed)
    by_cases inside : Within (blocks tag text) (i + 1)
    · have begins := eq_of_within_succ out inside
      rw [next, Option.some.injEq] at begins
      exact .inr begins
    · rw [getElem?_rewrite_blank, next, Option.map_some, if_neg inside]
      exact .inl rfl

theorem not_beginsAny_rewrite (tag : Tag) (text : List Char) (i : Nat) :
    ¬ BeginsAny tag ((rewrite tag blank text).drop i) := by
  intro left
  obtain ⟨block, here⟩ := beginsAny_iff.1 (left.of_blanked ((blanked_rewrite tag text).drop i))
  have here : IsIn tag text (i, block) := here
  have inside : Within (blocks tag text) i := by
    rcases mem_blocks_or here with come | ⟨outer, come, after, before⟩
    · exact ⟨_, come, Nat.le_refl _, Nat.lt_add_of_pos_right block.length_pos⟩
    · exact ⟨outer, come, Nat.le_of_lt after, before⟩
  have head := left.head?_eq
  rw [List.head?_drop, getElem?_rewrite_blank, head?_of_isIn here, Option.map_some, if_pos inside] at head
  exact absurd head (by decide)

theorem rewriteFrom_eq_self {f : List Char → List Char} (none' : ∀ i, ¬ BeginsAny tag (text.drop i)) :
    rewriteFrom tag f 0 text = text := by
  induction text with
  | nil => rfl
  | cons c text ih =>
    have absent : at? tag (c :: text) = none := by
      by_contra found
      obtain ⟨block, here⟩ := Option.ne_none_iff_exists'.1 found
      exact none' 0 (beginsAny_iff.2 ⟨block, here⟩)
    rw [rewriteFrom, absent]
    exact congrArg (c :: ·) (ih fun i => none' (i + 1))

end Block

theorem blanked_maskBlocks (text : List Char) : Blanked text (maskBlocks text) :=
  (Block.blanked_rewrite .script text).trans (Block.blanked_rewrite .style _)

theorem not_beginsAny_maskBlocks (text : List Char) (tag : Tag) (i : Nat) :
    ¬ Block.BeginsAny tag ((maskBlocks text).drop i) := by
  cases tag with
  | style => exact Block.not_beginsAny_rewrite .style _ i
  | script =>
    intro left
    have blanked := Block.blanked_rewrite .style (Block.rewrite .script blank text)
    exact Block.not_beginsAny_rewrite .script text i (left.of_blanked (blanked.drop i))

theorem maskBlocks_eq_self {text : List Char} (none' : ∀ tag i, ¬ Block.BeginsAny tag (text.drop i)) :
    maskBlocks text = text := by
  have scripts : Block.rewrite .script blank text = text := Block.rewriteFrom_eq_self (none' .script)
  rw [maskBlocks, scripts]
  exact Block.rewriteFrom_eq_self (none' .style)

theorem Blanked.feeds_eq {text masked : List Char} (h : Blanked text masked) :
    masked.map (· == '\n') = text.map (· == '\n') := by
  apply List.ext_getElem?
  intro i
  rw [List.getElem?_map, List.getElem?_map]
  rcases h.changed i with same | ⟨space, other⟩
  · rw [same]
  · have bound : i < text.length := h.length_eq ▸ (List.getElem?_eq_some_iff.1 space).1
    rw [List.getElem?_eq_getElem bound, Option.some_inj.ne] at other
    rw [space, List.getElem?_eq_getElem bound, Option.map_some, Option.map_some,
      beq_eq_false_iff_ne.2 other]
    rfl

theorem Blanked.ofIndex_eq {text masked : List Char} (h : Blanked text masked) (index : Nat) :
    Position.ofIndex masked index = Position.ofIndex text index :=
  Position.ofIndex_congr h.feeds_eq index

/-- Masking moves nothing: it keeps the length and the line feeds, puts a space for what it changes,
    leaves no complete block and nothing to mask. A place has the same position in the masked text as in
    the component, and what a search of the masked text finds is placed in the component. -/
theorem maskBlocks_masks (text : List Char) :
    let masked := maskBlocks text
    masked.length = text.length ∧
      (∀ i : Nat, masked[i]? = text[i]? ∨ masked[i]? = some ' ' ∧ text[i]? ≠ some '\n') ∧
      (∀ i : Nat, masked[i]? = some '\n' ↔ text[i]? = some '\n') ∧
      (∀ tag i, ¬ Block.Begins tag (fun _ => True) (masked.drop i)) ∧
      maskBlocks masked = masked ∧
      (∀ index, Position.ofIndex masked index = Position.ofIndex text index) ∧
      ∀ scan : Scan, scan.searchItems masked =
        (scan.language.dialect.finds scan.names masked).map (Dialect.Find.item scan.file text 0) := by
  intro masked
  have blanked := blanked_maskBlocks text
  refine ⟨blanked.length_eq, blanked.changed, fun i => ?_, not_beginsAny_maskBlocks text,
    maskBlocks_eq_self (not_beginsAny_maskBlocks text), blanked.ofIndex_eq, fun scan => ?_⟩
  · rcases blanked.changed i with same | ⟨space, other⟩
    · rw [same]
    · rw [space]
      exact ⟨nofun, fun feed => absurd feed other⟩
  · refine List.map_congr_left fun find _ => ?_
    have placed := blanked.ofIndex_eq (0 + find.index)
    simp only [Dialect.Find.item, masked, placed]

end Phrasebook.Component
