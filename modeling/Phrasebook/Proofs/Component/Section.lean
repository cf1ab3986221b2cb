import Mathlib.Data.List.Pairwise
import Phrasebook.Proofs.Component.Block
import Phrasebook.Proofs.Sorting

namespace Phrasebook.Component

namespace Block

def stop (found : Nat × Block) : Nat := found.1 + found.2.length

def IsIn (tag : Tag) (text : List Char) (found : Nat × Block) : Prop :=
  at? tag (text.drop found.1) = some found.2

variable {tag : Tag} {accept : Block → Bool}

theorem length_pos (block : Block) : 0 < block.length := by
  unfold length
  omega

theorem at?_nil : at? tag [] = none := rfl

theorem IsIn.unique {text : List Char} {found other : Nat × Block} (here : IsIn tag text found)
    (there : IsIn tag text other) (same : found.1 = other.1) : found = other := by
  unfold IsIn at here there
  rw [same, there] at here
  exact Prod.ext same (Option.some.inj here.symm)

theorem IsIn.succ {c : Char} {text : List Char} {i : Nat} {block : Block}
    (h : IsIn tag (c :: text) (i + 1, block)) : IsIn tag text (i, block) := h

section First

structure Earliest (tag : Tag) (accept : Block → Bool) (text : List Char) (found : Nat × Block) :
    Prop where
  here : IsIn tag text found
  accepted : accept found.2 = true
  first : ∀ other, IsIn tag text other → accept other.2 = true → found.1 ≤ other.1

theorem firstFrom?_some {text : List Char} {index : Nat} {found : Nat × Block}
    (h : firstFrom? tag accept index text = some found) :
    index ≤ found.1 ∧ Earliest tag accept text (found.1 - index, found.2) := by
  induction text generalizing index with
  | nil => cases h
  | cons c text ih =>
    unfold firstFrom? at h
    split at h
    · rename_i block here
      cases h
      obtain ⟨here, accepted⟩ := Option.filter_eq_some_iff.1 here
      refine ⟨Nat.le_refl _, ?_, accepted, fun other _ _ => ?_⟩
      · rw [Nat.sub_self]
        exact here
      · rw [Nat.sub_self]
        exact Nat.zero_le _
    · rename_i refused
      obtain ⟨after, here, accepted, first⟩ := ih h
      have shift : found.1 - index = found.1 - (index + 1) + 1 := by omega
      refine ⟨by omega, ?_, accepted, fun other there accepted' => ?_⟩
      · rw [shift]
        exact here
      · obtain ⟨i, block⟩ := other
        cases i with
        | zero =>
          rw [Option.filter_eq_none_iff] at refused
          exact absurd accepted' (refused block there)
        | succ i =>
          have later := first (i, block) there accepted'
          rw [shift]
          exact Nat.succ_le_succ later

theorem firstFrom?_none {text : List Char} {index : Nat}
    (h : firstFrom? tag accept index text = none) {found : Nat × Block}
    (here : IsIn tag text found) : accept found.2 = false := by
  obtain ⟨i, block⟩ := found
  induction text generalizing index i with
  | nil =>
    unfold IsIn at here
    rw [List.drop_nil, at?_nil] at here
    cases here
  | cons c text ih =>
    unfold firstFrom? at h
    split at h
    · cases h
    · rename_i refused
      cases i with
      | zero =>
        rw [Option.filter_eq_none_iff] at refused
        exact Bool.eq_false_iff.2 (refused block here)
      | succ i => exact ih h i here.succ

theorem first?_eq_some_iff {text : List Char} {found : Nat × Block} :
    first? tag accept text = some found ↔ Earliest tag accept text found := by
  have sound : ∀ {one}, first? tag accept text = some one → Earliest tag accept text one :=
    fun h => (firstFrom?_some h).2
  refine ⟨sound, fun earliest => ?_⟩
  cases result : first? tag accept text with
  | none =>
    have refused := firstFrom?_none result earliest.here
    rw [earliest.accepted] at refused
    cases refused
  | some one =>
    have other := sound result
    have before := other.first found earliest.here earliest.accepted
    have after := earliest.first one other.here other.accepted
    rw [other.here.unique earliest.here (Nat.le_antisymm before after)]

end First

section Blocks

def blocksFrom (tag : Tag) : (index covered : Nat) → List Char → List (Nat × Block)
  | _, _, [] => []
  | index, covered + 1, _ :: text => blocksFrom tag (index + 1) covered text
  | index, 0, c :: text =>
    match at? tag (c :: text) with
    | some block => (index, block) :: blocksFrom tag (index + 1) (block.length - 1) text
    | none => blocksFrom tag (index + 1) 0 text

def blocks (tag : Tag) (text : List Char) : List (Nat × Block) := blocksFrom tag 0 0 text

theorem mem_blocksFrom {text : List Char} {index covered : Nat} {found : Nat × Block}
    (h : found ∈ blocksFrom tag index covered text) :
    index + covered ≤ found.1 ∧ IsIn tag text (found.1 - index, found.2) := by
  induction text generalizing index covered with
  | nil => cases h
  | cons c text ih =>
    have further : ∀ {covered}, found ∈ blocksFrom tag (index + 1) covered text →
        index + 1 + covered ≤ found.1 ∧ IsIn tag (c :: text) (found.1 - index, found.2) := by
      intro covered later
      obtain ⟨after, here⟩ := ih later
      have shift : found.1 - index = found.1 - (index + 1) + 1 := by omega
      rw [shift]
      exact ⟨after, here⟩
    cases covered with
    | succ covered =>
      obtain ⟨after, here⟩ := further h
      exact ⟨by omega, here⟩
    | zero =>
      unfold blocksFrom at h
      split at h
      · rename_i block here
        rcases List.mem_cons.1 h with rfl | later
        · refine ⟨Nat.le_refl _, ?_⟩
          rw [Nat.sub_self]
          exact here
        · obtain ⟨after, here⟩ := further later
          exact ⟨by omega, here⟩
      · obtain ⟨after, here⟩ := further h
        exact ⟨by omega, here⟩

theorem isIn_of_mem_blocks {text : List Char} {found : Nat × Block} (h : found ∈ blocks tag text) :
    IsIn tag text found := (mem_blocksFrom h).2

theorem blocksFrom_apart (text : List Char) (index covered : Nat) :
    (blocksFrom tag index covered text).Pairwise fun a b => stop a ≤ b.1 := by
  induction text generalizing index covered with
  | nil => exact .nil
  | cons c text ih =>
    cases covered with
    | succ covered => exact ih (index + 1) covered
    | zero =>
      unfold blocksFrom
      split
      · rename_i block here
        refine List.pairwise_cons.2 ⟨fun later member => ?_, ih _ _⟩
        have after := (mem_blocksFrom member).1
        have positive := block.length_pos
        show index + block.length ≤ later.1
        omega
      · exact ih _ _

theorem mem_blocksFrom_or {text : List Char} {i : Nat} {block : Block}
    (here : IsIn tag text (i, block)) (index : Nat) {covered : Nat} (after : covered ≤ i) :
    (index + i, block) ∈ blocksFrom tag index covered text ∨
      ∃ outer ∈ blocksFrom tag index covered text, outer.1 < index + i ∧ index + i < stop outer := by
  induction text generalizing i index covered with
  | nil =>
    unfold IsIn at here
    rw [List.drop_nil, at?_nil] at here
    cases here
  | cons c text ih =>
    cases covered with
    | succ covered =>
      obtain ⟨i, rfl⟩ : ∃ k, i = k + 1 := ⟨i - 1, by omega⟩
      have shift : index + (i + 1) = index + 1 + i := by omega
      rw [shift]
      exact ih here.succ (index + 1) (Nat.le_of_succ_le_succ after)
    | zero =>
      unfold blocksFrom
      cases i with
      | zero =>
        have found : at? tag (c :: text) = some block := here
        rw [found]
        exact .inl List.mem_cons_self
      | succ i =>
        have shift : index + (i + 1) = index + 1 + i := by omega
        rw [shift]
        split
        · rename_i first _
          by_cases inside : i < first.length - 1
          · refine .inr ⟨(index, first), List.mem_cons_self, ?_, ?_⟩
            · show index < index + 1 + i
              omega
            · show index + 1 + i < index + first.length
              omega
          · rcases ih here.succ (index + 1) (Nat.le_of_not_lt inside) with found | ⟨outer, member, within⟩
            · exact .inl (List.mem_cons_of_mem _ found)
            · exact .inr ⟨outer, List.mem_cons_of_mem _ member, within⟩
        · exact ih here.succ (index + 1) (Nat.zero_le i)

theorem mem_blocks_or {text : List Char} {found : Nat × Block} (here : IsIn tag text found) :
    found ∈ blocks tag text ∨
      ∃ outer ∈ blocks tag text, outer.1 < found.1 ∧ found.1 < stop outer := by
  have either := mem_blocksFrom_or here 0 (Nat.zero_le found.1)
  rw [Nat.zero_add] at either
  exact either

theorem find?_blocks_eq_some {text : List Char} {found : Nat × Block}
    (h : (blocks tag text).find? (accept ·.2) = some found) :
    found ∈ blocks tag text ∧ accept found.2 = true ∧
      ∀ other ∈ blocks tag text, accept other.2 = true → found.1 ≤ other.1 := by
  have sorted : (blocks tag text).Pairwise fun a b => a.1 < b.1 := by
    refine (blocksFrom_apart text 0 0).imp fun {a b} apart => ?_
    have positive := a.2.length_pos
    unfold stop at apart
    omega
  exact (find?_eq_some_iff_of_sorted sorted).1 h

theorem apart_of_mem_blocks {text : List Char} {one other : Nat × Block}
    (mem : one ∈ blocks tag text) (mem' : other ∈ blocks tag text) (distinct : one ≠ other) :
    stop one ≤ other.1 ∨ stop other ≤ one.1 := by
  have apart : (blocks tag text).Pairwise fun a b => stop a ≤ b.1 ∨ stop b ≤ a.1 :=
    (blocksFrom_apart text 0 0).imp .inl
  have : Std.Symm fun a b : Nat × Block => stop a ≤ b.1 ∨ stop b ≤ a.1 := ⟨fun _ _ => Or.symm⟩
  exact apart.forall mem mem' distinct

/-- An accepted block that starts inside another one, where neither that one nor any before it is
    accepted. -/
structure Hides (tag : Tag) (accept : Block → Bool) (text : List Char) (outer inner : Nat × Block) :
    Prop where
  come : outer ∈ blocks tag text
  here : IsIn tag text inner
  accepted : accept inner.2 = true
  after : outer.1 < inner.1
  before : inner.1 < stop outer
  refused : ∀ earlier ∈ blocks tag text, earlier.1 ≤ outer.1 → accept earlier.2 = false

theorem earliest_of_find?_blocks {text : List Char}
    (shown : ∀ outer inner, ¬ Hides tag accept text outer inner) {found : Nat × Block}
    (h : (blocks tag text).find? (accept ·.2) = some found) :
    Earliest tag accept text found := by
  obtain ⟨member, accepted, first⟩ := find?_blocks_eq_some h
  refine ⟨isIn_of_mem_blocks member, accepted, fun other here accepted' => ?_⟩
  rcases mem_blocks_or here with come | ⟨outer, come, after, before⟩
  · exact first other come accepted'
  · by_contra late
    refine shown outer other ⟨come, here, accepted', after, before, fun earlier come' front => ?_⟩
    rw [Bool.eq_false_iff]
    intro accepted''
    have := first earlier come' accepted''
    omega

/-- The earliest accepted block is the first accepted one of those that rewriting comes to, unless it is
    hidden inside one of these. -/
theorem first?_eq_find?_iff (text : List Char) :
    first? tag accept text = (blocks tag text).find? (accept ·.2) ↔
      ∀ outer inner, ¬ Hides tag accept text outer inner := by
  constructor
  · rintro same outer inner ⟨member, here, accepted, after, before, refused⟩
    cases result : first? tag accept text with
    | none =>
      have rejected := firstFrom?_none result here
      rw [accepted] at rejected
      cases rejected
    | some found =>
      have early := (first?_eq_some_iff.1 result).first inner here accepted
      rw [result] at same
      obtain ⟨come, accepted', _⟩ := find?_blocks_eq_some same.symm
      -- What starts before the end of `outer` starts before `outer` does, or is `outer`.
      have front : found.1 ≤ outer.1 := by
        by_cases equal : outer = found
        · exact equal ▸ Nat.le_refl _
        · have positive := found.2.length_pos
          rcases apart_of_mem_blocks member come equal with apart | apart
          · omega
          · unfold stop at apart
            omega
      have rejected := refused found come front
      rw [accepted'] at rejected
      cases rejected
  · intro shown
    cases found : (blocks tag text).find? (accept ·.2) with
    | some block => exact first?_eq_some_iff.2 (earliest_of_find?_blocks shown found)
    | none =>
      have refused := List.find?_eq_none.1 found
      cases result : first? tag accept text with
      | none => rfl
      | some inner =>
        obtain ⟨here, accepted, _⟩ := first?_eq_some_iff.1 result
        rcases mem_blocks_or here with come | ⟨outer, come, after, before⟩
        · exact absurd accepted (refused inner come)
        · exact absurd ⟨come, here, accepted, after, before, fun earlier come' _ =>
            Bool.eq_false_iff.2 (refused earlier come')⟩ (shown outer inner)

end Blocks

def blankChar (c : Char) : Char := if c == '\n' then c else ' '

theorem blank_eq (text : List Char) : blank text = text.map blankChar := rfl

def Within (found : List (Nat × Block)) (i : Nat) : Prop :=
  ∃ one ∈ found, one.1 ≤ i ∧ i < stop one

instance (found : List (Nat × Block)) (i : Nat) : Decidable (Within found i) :=
  inferInstanceAs (Decidable (∃ one ∈ found, one.1 ≤ i ∧ i < stop one))

theorem not_within_blocksFrom (tag : Tag) (text : List Char) {index covered i : Nat}
    (before : i < index) : ¬ Within (blocksFrom tag index covered text) i := by
  rintro ⟨one, member, start, _⟩
  have after := (mem_blocksFrom member).1
  omega

theorem within_cons_iff {one : Nat × Block} {rest : List (Nat × Block)} {i : Nat} :
    Within (one :: rest) i ↔ (one.1 ≤ i ∧ i < stop one) ∨ Within rest i := by
  simp only [Within, List.mem_cons, exists_eq_or_imp]

theorem getElem?_rewriteFrom_blank (tag : Tag) (text : List Char) (index covered i : Nat) :
    (rewriteFrom tag blank covered text)[i]? =
      text[covered + i]?.map fun c =>
        if Within (blocksFrom tag index covered text) (index + covered + i) then blankChar c else c := by
  induction text generalizing index covered i with
  | nil => simp [rewriteFrom]
  | cons c text ih =>
    cases covered with
    | succ covered =>
      have place : index + (covered + 1) + i = index + 1 + covered + i := by omega
      have next : covered + 1 + i = covered + i + 1 := by omega
      rw [place, next, List.getElem?_cons_succ]
      exact ih (index + 1) covered i
    | zero =>
      rw [Nat.zero_add, Nat.add_zero]
      unfold rewriteFrom blocksFrom
      cases here : at? tag (c :: text) with
      | none =>
        cases i with
        | zero => simp [not_within_blocksFrom tag text (Nat.lt_succ_self index)]
        | succ i =>
          have place : index + (i + 1) = index + 1 + 0 + i := by omega
          have tail := ih (index + 1) 0 i
          rw [Nat.zero_add] at tail
          simpa only [List.getElem?_cons_succ, place] using tail
      | some block =>
        have long := length_le_of_at? here
        have positive := block.length_pos
        have taken : (blank ((c :: text).take block.length)).length = block.length := by
          rw [blank_eq, List.length_map, List.length_take, Nat.min_eq_left long]
        dsimp only
        rw [List.getElem?_append, taken]
        by_cases inside : i < block.length
        · have covers : Within ((index, block) :: blocksFrom tag (index + 1) (block.length - 1) text)
              (index + i) :=
            within_cons_iff.2 (.inl ⟨Nat.le_add_right _ _, Nat.add_lt_add_left inside index⟩)
          rw [if_pos inside, blank_eq, List.getElem?_map, List.getElem?_take_of_lt inside]
          simp only [if_pos covers]
        · obtain ⟨j, rfl⟩ : ∃ j, i = block.length + j := ⟨i - block.length, by omega⟩
          have place : index + 1 + (block.length - 1) + j = index + (block.length + j) := by omega
          have next : block.length + j = block.length - 1 + j + 1 := by omega
          have beyond : Within ((index, block) :: blocksFrom tag (index + 1) (block.length - 1) text)
                (index + (block.length + j)) ↔
              Within (blocksFrom tag (index + 1) (block.length - 1) text)
                (index + (block.length + j)) := by
            refine within_cons_iff.trans (or_iff_right ?_)
            show ¬ (index ≤ index + (block.length + j) ∧
              index + (block.length + j) < index + block.length)
            omega
          have tail := ih (index + 1) (block.length - 1) j
          rw [place] at tail
          simp only [if_neg inside, Nat.add_sub_cancel_left, tail, beyond]
          rw [next, List.getElem?_cons_succ]

/-- Blanking leaves what is in no block of the kind, and makes a space of all else but line feeds. -/
theorem getElem?_rewrite_blank (tag : Tag) (text : List Char) (i : Nat) :
    (rewrite tag blank text)[i]? =
      text[i]?.map fun c => if Within (blocks tag text) i then blankChar c else c := by
  have whole := getElem?_rewriteFrom_blank tag text 0 0 i
  rw [Nat.zero_add] at whole
  exact whole

end Block

theorem map_ofBlock_inj (tag : Tag) (text : List Char) {one other : Option (Nat × Block)}
    (here : ∀ found ∈ one, Block.IsIn tag text found)
    (there : ∀ found ∈ other, Block.IsIn tag text found) :
    one.map Section.ofBlock = other.map Section.ofBlock ↔ one = other := by
  refine ⟨fun same => ?_, congrArg _⟩
  cases one with
  | none =>
    cases other with
    | none => rfl
    | some _ => cases same
  | some found =>
    cases other with
    | none => cases same
    | some found' =>
      have start : found.1 = found'.1 := congrArg Section.start (Option.some.inj same)
      rw [(here found rfl).unique (there found' rfl) start]

theorem map_first?_eq_iff (accept : Block → Bool) (text : List Char) :
    (Block.first? .script accept text).map Section.ofBlock =
        ((Block.blocks .script text).find? (accept ·.2)).map Section.ofBlock ↔
      ∀ outer inner, ¬ Block.Hides .script accept text outer inner := by
  rw [← Block.first?_eq_find?_iff]
  refine map_ofBlock_inj .script text (fun found here => ?_) (fun found come => ?_)
  · exact (Block.first?_eq_some_iff.1 here).here
  · exact Block.isIn_of_mem_blocks (Block.find?_blocks_eq_some come).1

namespace Sections

/-- Splitting and blanking see the same scripts, unless one that is looked for starts inside another
    one: the module script is then the first block with the marker among those that are blanked, the
    other script the first without it, and the two lie apart. -/
theorem ofText_agrees_iff (text : List Char) :
    let scripts := Block.blocks .script text
    let marked : Block → Bool := fun block => marksModule block.attributes
    let plain : Block → Bool := fun block => !marksModule block.attributes
    (∃ unscripted, maskBlocks text = Block.rewrite .style blank unscripted ∧
        ∀ i : Nat, unscripted[i]? =
          text[i]?.map fun c => if Block.Within scripts i then Block.blankChar c else c) ∧
      ((ofText text).moduleScript = (scripts.find? (marked ·.2)).map Section.ofBlock ↔
        ∀ outer inner, ¬ Block.Hides .script marked text outer inner) ∧
      ((ofText text).script = (scripts.find? (plain ·.2)).map Section.ofBlock ↔
        ∀ outer inner, ¬ Block.Hides .script plain text outer inner) ∧
      ((∀ outer inner, ¬ Block.Hides .script marked text outer inner) →
        (∀ outer inner, ¬ Block.Hides .script plain text outer inner) →
        ∀ one ∈ (ofText text).moduleScript, ∀ other ∈ (ofText text).script,
          one.stop ≤ other.start ∨ other.stop ≤ one.start) := by
  intro scripts marked plain
  refine ⟨⟨_, rfl, Block.getElem?_rewrite_blank .script text⟩, map_first?_eq_iff marked text,
    map_first?_eq_iff plain text, fun shown shown' one first other second => ?_⟩
  have first : (scripts.find? (marked ·.2)).map Section.ofBlock = some one :=
    ((map_first?_eq_iff marked text).2 shown).symm.trans first
  have second : (scripts.find? (plain ·.2)).map Section.ofBlock = some other :=
    ((map_first?_eq_iff plain text).2 shown').symm.trans second
  obtain ⟨block, found, rfl⟩ := Option.map_eq_some_iff.1 first
  obtain ⟨block', found', rfl⟩ := Option.map_eq_some_iff.1 second
  obtain ⟨come, marks, _⟩ := Block.find?_blocks_eq_some found
  obtain ⟨come', lacks, _⟩ := Block.find?_blocks_eq_some found'
  have distinct : block ≠ block' := by
    rintro rfl
    have lacks : (!marked block.2) = true := lacks
    rw [marks] at lacks
    cases lacks
  exact Block.apart_of_mem_blocks come come' distinct

/-- A module script that mentions an opening tag, and another script after it. -/
def mentioning : List Char :=
  "<script module>const s = '<script>'</script><script>t('k')</script>".toList

/-- The end of the module script is taken for the other script. -/
theorem ofText_mentioning :
    (ofText mentioning).moduleScript = some ⟨"const s = '<script>'".toList, 0, 44, 15, false⟩ ∧
      (ofText mentioning).script = some ⟨['\''], 26, 44, 34, false⟩ ∧
      ((Block.blocks .script mentioning).find? (!marksModule ·.2.attributes)).map Section.ofBlock =
        some ⟨"t('k')".toList, 44, 67, 52, false⟩ := by
  decide +kernel

end Sections

end Phrasebook.Component
