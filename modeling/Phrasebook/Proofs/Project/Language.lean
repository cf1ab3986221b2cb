import Phrasebook.Extraction.Selection
import Phrasebook.Proofs.Project.Nesting

namespace Phrasebook.Braces

/-- A text is in the language of a pattern. -/
inductive Denotes : List Char → List Char → Prop
  | nil : Denotes [] []
  | char {c : Char} {pattern text : List Char} (plain : isBrace c = false)
      (rest : Denotes pattern text) : Denotes (c :: pattern) (c :: text)
  | group {inside after alternative chosen text : List Char} (nested : WellNested inside)
      (member : alternative ∈ alternatives inside) (choice : Denotes alternative chosen)
      (rest : Denotes after text) : Denotes ('\x7b' :: (inside ++ '\x7d' :: after)) (chosen ++ text)

section

variable {c : Char} {pattern text : List Char}

theorem denotes_char_iff (plain : isBrace c = false) :
    Denotes (c :: pattern) text ↔ ∃ rest, text = c :: rest ∧ Denotes pattern rest := by
  constructor
  · intro h
    cases h with
    | char _ rest => exact ⟨_, rfl, rest⟩
    | group => cases plain
  · intro ⟨rest, whole, denotes⟩
    rw [whole]
    exact .char plain denotes

theorem denotes_plain_append_iff {front : List Char} (plain : ∀ c ∈ front, isBrace c = false) :
    Denotes (front ++ pattern) text ↔ ∃ rest, text = front ++ rest ∧ Denotes pattern rest := by
  induction front generalizing text with
  | nil => simp
  | cons c front ih =>
    obtain ⟨first, others⟩ := List.forall_mem_cons.1 plain
    rw [List.cons_append, denotes_char_iff first]
    constructor
    · intro ⟨rest, whole, denotes⟩
      obtain ⟨last, same, denotes⟩ := (ih others).1 denotes
      exact ⟨last, by rw [whole, same, List.cons_append], denotes⟩
    · intro ⟨rest, whole, denotes⟩
      exact ⟨front ++ rest, whole, (ih others).2 ⟨rest, rfl, denotes⟩⟩

theorem denotes_plain_iff (plain : ∀ c ∈ pattern, isBrace c = false) :
    Denotes pattern text ↔ text = pattern := by
  have whole : Denotes (pattern ++ []) text ↔ ∃ rest, text = pattern ++ rest ∧ Denotes [] rest :=
    denotes_plain_append_iff plain
  rw [List.append_nil] at whole
  rw [whole]
  constructor
  · intro ⟨rest, same, denotes⟩
    cases denotes
    rw [same, List.append_nil]
  · intro same
    exact ⟨[], by rw [same, List.append_nil], .nil⟩

theorem denotes_group_iff {inside after : List Char} (closed : closing? 0 pattern = some (inside, after)) :
    Denotes ('\x7b' :: pattern) text ↔
      ∃ chosen rest, (∃ alternative ∈ alternatives inside, Denotes alternative chosen) ∧
        Denotes after rest ∧ text = chosen ++ rest := by
  constructor
  · intro h
    cases h with
    | char plain => cases plain
    | group nested member choice rest =>
      rw [closing?_eq_some_iff.2 ⟨nested, rfl⟩] at closed
      cases closed
      exact ⟨_, _, ⟨_, member, choice⟩, rest, rfl⟩
  · intro ⟨chosen, rest, ⟨alternative, member, choice⟩, others, whole⟩
    obtain ⟨nested, same⟩ := closing?_eq_some_iff.1 closed
    rw [same, whole]
    exact .group nested member choice others

theorem not_denotes_of_not_closed (h : closing? 0 pattern = none) : ¬ Denotes ('\x7b' :: pattern) text := by
  intro denotes
  cases denotes with
  | char plain => cases plain
  | group nested =>
    rw [closing?_eq_some_iff.2 ⟨nested, rfl⟩] at h
    cases h

theorem not_denotes_closing : ¬ Denotes ('\x7d' :: pattern) text := by
  intro h
  cases h with
  | char plain => cases plain

end

theorem mem_of_mem_splitAt {mark c : Char} {text part : List Char}
    (h : part ∈ Text.splitAt mark text) (member : c ∈ part) : c ∈ text ∧ c ≠ mark := by
  induction text generalizing part with
  | nil =>
    rw [Text.splitAt, List.mem_singleton] at h
    rw [h] at member
    cases member
  | cons d text ih =>
    rw [Text.splitAt] at h
    split at h
    · rcases List.mem_cons.1 h with rfl | h
      · cases member
      · exact (ih h member).imp_left (List.mem_cons_of_mem d)
    · rename_i other
      cases parts : Text.splitAt mark text with
      | nil => exact absurd parts (Text.splitAt_ne_nil mark text)
      | cons first others =>
        rw [parts] at h ih
        rcases List.mem_cons.1 h with rfl | h
        · rcases List.mem_cons.1 member with rfl | member
          · exact ⟨List.mem_cons_self, by simpa using other⟩
          · exact (ih List.mem_cons_self member).imp_left (List.mem_cons_of_mem d)
        · exact (ih (List.mem_cons_of_mem _ h) member).imp_left (List.mem_cons_of_mem d)

theorem exists_mem_middle_iff {α : Type} {p : α → Prop} {earlier later : List α} {a : α} :
    (∃ b ∈ earlier ++ a :: later, p b) ↔ (∃ b ∈ earlier ++ later, p b) ∨ p a := by
  simp only [List.mem_append, List.mem_cons]
  constructor
  · intro ⟨b, place, holds⟩
    rcases place with before | rfl | after
    · exact .inl ⟨b, .inl before, holds⟩
    · exact .inr holds
    · exact .inl ⟨b, .inr after, holds⟩
  · intro either
    rcases either with ⟨b, place, holds⟩ | holds
    · exact ⟨b, place.imp_right .inr, holds⟩
    · exact ⟨a, .inr (.inl rfl), holds⟩

section

variable {inside : List Char} (plain : ∀ c ∈ inside, isBrace c = false)

include plain

theorem plain_of_mem_splitAt {choice : List Char} (h : choice ∈ Text.splitAt ',' inside) :
    ∀ c ∈ choice, isBrace c = false := fun c member => plain c (mem_of_mem_splitAt h member).1

theorem inert_of_mem_splitAt {choice : List Char} (h : choice ∈ Text.splitAt ',' inside) :
    Inert choice :=
  inert_of_plain (plain_of_mem_splitAt plain h) fun comma => (mem_of_mem_splitAt h comma).2 rfl

omit plain in
def Chooses (inside before after : List Char) : Prop :=
  ∀ text, Denotes (before ++ flat inside ++ after) text ↔
    ∃ choice ∈ Text.splitAt ',' inside, Denotes (before ++ choice ++ after) text

theorem chooses_nil (after : List Char) : Chooses inside [] after := by
  intro text
  have nested : depthAfter 0 inside = some 0 := depthAfter_of_plain plain
  have whole : [] ++ flat inside ++ after = '\x7b' :: (inside ++ '\x7d' :: after) := by simp [flat]
  rw [whole, denotes_group_iff (closing?_eq_some_iff.2 ⟨nested, rfl⟩), alternatives_of_plain plain]
  constructor
  · intro outer
    obtain ⟨chosen, rest, ⟨choice, member, denotes⟩, others, joined⟩ := outer
    have plain' := plain_of_mem_splitAt plain member
    rw [(denotes_plain_iff plain').1 denotes] at joined
    exact ⟨choice, member, (denotes_plain_append_iff plain').2 ⟨rest, joined, others⟩⟩
  · intro chosen
    obtain ⟨choice, member, denotes⟩ := chosen
    have plain' := plain_of_mem_splitAt plain member
    obtain ⟨rest, joined, others⟩ := (denotes_plain_append_iff plain').1 denotes
    exact ⟨choice, rest, ⟨choice, member, (denotes_plain_iff plain').2 rfl⟩, others, joined⟩

omit plain in
theorem chooses_char {c : Char} (char : isBrace c = false) {before after : List Char}
    (ih : Chooses inside before after) : Chooses inside (c :: before) after := by
  intro text
  simp only [List.cons_append, denotes_char_iff char, ih _]
  constructor
  · intro ⟨rest, whole, choice, member, denotes⟩
    exact ⟨choice, member, rest, whole, denotes⟩
  · intro ⟨choice, member, rest, whole, denotes⟩
    exact ⟨rest, whole, choice, member, denotes⟩

omit plain in
theorem chooses_behind {before after : List Char} (ends : depthAfter 0 before = none)
    (ih : ∀ rest, rest.length < before.length → Chooses inside rest after) :
    Chooses inside ('\x7b' :: before) after := by
  intro text
  obtain ⟨first, rest, shorter, closed⟩ := closing?_append_of_none ends
  have outer : ∀ piece, Denotes ('\x7b' :: before ++ piece ++ after) text ↔
      ∃ chosen other, (∃ alternative ∈ alternatives first, Denotes alternative chosen) ∧
        Denotes (rest ++ piece ++ after) other ∧ text = chosen ++ other := by
    intro piece
    have closing : closing? 0 (before ++ piece ++ after) = some (first, rest ++ piece ++ after) := by
      rw [List.append_assoc, closed, List.append_assoc]
    exact denotes_group_iff closing
  simp only [outer, ih rest shorter _]
  constructor
  · intro ⟨chosen, other, denotes, ⟨choice, member, others⟩, joined⟩
    exact ⟨choice, member, chosen, other, denotes, others, joined⟩
  · intro ⟨choice, member, chosen, other, denotes, others, joined⟩
    exact ⟨chosen, other, denotes, ⟨choice, member, others⟩, joined⟩

omit plain in
theorem chooses_middle {front back : List Char} (ih : Chooses inside front back)
    (earlier later : List (List Char)) (chosen : List Char) :
    (∃ alternative ∈ earlier ++ (front ++ flat inside ++ back) :: later, Denotes alternative chosen) ↔
      ∃ choice ∈ Text.splitAt ',' inside,
        ∃ alternative ∈ earlier ++ (front ++ choice ++ back) :: later, Denotes alternative chosen := by
  simp only [exists_mem_middle_iff, ih chosen]
  -- the other patterns do not depend on the choice, and there is at least one
  obtain ⟨first, member⟩ := List.exists_mem_of_ne_nil _ (Text.splitAt_ne_nil ',' inside)
  constructor
  · intro either
    rcases either with other | ⟨choice, inner, denotes⟩
    · exact ⟨first, member, .inl other⟩
    · exact ⟨choice, inner, .inr denotes⟩
  · intro ⟨choice, inner, either⟩
    exact either.imp_right fun denotes => ⟨choice, inner, denotes⟩

theorem chooses_within {before after : List Char} {depth : Nat}
    (opened : depthAfter 0 before = some depth)
    (ih : ∀ front back, front.length + back.length ≤ before.length + after.length →
      Chooses inside front back) :
    Chooses inside ('\x7b' :: before) after := by
  intro text
  have flat' : Inert (flat inside) := inert_flat plain
  cases closed : closing? depth after with
  | none =>
    -- the outer group does not end, whatever stands in place of the inner one
    have never : ∀ piece, Inert piece → ¬ Denotes ('\x7b' :: before ++ piece ++ after) text := by
      intro piece inert
      have open' : closing? 0 (before ++ piece ++ after) = none := by
        rw [inert.closing?_between opened, closed, Option.map_none]
      exact not_denotes_of_not_closed open'
    constructor
    · exact fun denotes => absurd denotes (never _ flat')
    · intro ⟨choice, member, denotes⟩
      exact absurd denotes (never choice (inert_of_mem_splitAt plain member))
  | some found =>
    obtain ⟨last, rest⟩ := found
    -- the outer group ends at the same brace and has the same alternatives but for the one around the
    -- inner group, for the inner group itself and for each of its choices
    obtain ⟨earlier, front, back, later, parts⟩ := exists_alternative 0 before last
    have outer : ∀ piece, Inert piece → (Denotes ('\x7b' :: before ++ piece ++ after) text ↔
        ∃ chosen other, (∃ alternative ∈ earlier ++ (front ++ piece ++ back) :: later,
          Denotes alternative chosen) ∧ Denotes rest other ∧ text = chosen ++ other) := by
      intro piece inert
      have closing : closing? 0 (before ++ piece ++ after) = some (before ++ piece ++ last, rest) := by
        rw [inert.closing?_between opened, closed, Option.map_some]
      rw [← parts piece inert]
      exact denotes_group_iff closing
    have shorter : front.length + back.length ≤ before.length + after.length := by
      have member : front ++ flat inside ++ back ∈ alternativesFrom 0 (before ++ flat inside ++ last) := by
        rw [parts _ flat']
        simp
      have bound := length_le_of_mem_alternativesFrom member
      have rest' := congrArg List.length (closing?_eq_some_iff.1 closed).2
      simp only [List.length_append, List.length_cons] at bound rest'
      omega
    have within := chooses_middle (ih front back shorter) earlier later
    rw [outer _ flat']
    constructor
    · intro ⟨chosen, other, denotes, others, joined⟩
      obtain ⟨choice, member, denotes⟩ := (within chosen).1 denotes
      have inert := inert_of_mem_splitAt plain member
      exact ⟨choice, member, (outer choice inert).2 ⟨chosen, other, denotes, others, joined⟩⟩
    · intro ⟨choice, member, denotes⟩
      have inert := inert_of_mem_splitAt plain member
      obtain ⟨chosen, other, denotes, others, joined⟩ := (outer choice inert).1 denotes
      exact ⟨chosen, other, (within chosen).2 ⟨choice, member, denotes⟩, others, joined⟩

theorem denotes_flat_iff (before after : List Char) : Chooses inside before after := by
  induction size : before.length + after.length using Nat.strongRecOn
    generalizing before after with
  | _ size ih =>
    subst size
    have smaller : ∀ front back, front.length + back.length < before.length + after.length →
        Chooses inside front back := fun front back less => ih _ less front back rfl
    cases before with
    | nil => exact chooses_nil plain after
    | cons c before =>
      by_cases opening : c = '\x7b'
      · subst opening
        cases opened : depthAfter 0 before with
        | none =>
          refine chooses_behind opened fun rest less => smaller rest after ?_
          simp only [List.length_cons]
          omega
        | some depth =>
          refine chooses_within plain opened fun front back less => smaller front back ?_
          simp only [List.length_cons]
          omega
      · by_cases closing : c = '\x7d'
        · subst closing
          intro text
          constructor
          · exact fun denotes => absurd denotes not_denotes_closing
          · intro ⟨choice, _, denotes⟩
            exact absurd denotes not_denotes_closing
        · have char := isBrace_eq_false_iff.2 ⟨opening, closing⟩
          exact chooses_char char (smaller before after (by simp))

end

theorem mem_expand_iff {pattern text : List Char} (nested : WellNested pattern) :
    text ∈ expand pattern ↔ Denotes pattern text := by
  induction pattern using expand.induct with
  | case1 pattern found =>
    rw [expand_of_firstGroup?_none found, List.mem_singleton,
      denotes_plain_iff (plain_of_wellNested nested found)]
  | case2 pattern group found ih =>
    obtain ⟨plain, whole⟩ := firstGroup?_eq_some found
    -- the pattern stays well nested with a choice in place of its first group
    have still : ∀ choice ∈ Text.splitAt ',' group.inside,
        WellNested (group.before ++ choice ++ group.after) := by
      intro choice member
      have inert := inert_of_mem_splitAt plain member
      have flat' := inert_flat plain
      rw [WellNested, whole, flat'.depthAfter_between] at nested
      rw [WellNested, inert.depthAfter_between]
      exact nested
    have chooses := denotes_flat_iff plain group.before group.after text
    rw [expand_of_firstGroup? found, List.mem_flatMap, whole, chooses]
    refine exists_congr fun choice => and_congr_right fun member => ?_
    exact ih choice member (still choice member)

/-- Expanding makes the pattern shorter until no group is left. If every brace has its partner, what it
    arrives at is the language of the pattern, and it is that language which an exclude pattern covers. -/
theorem expand_language (pattern : String) :
    (∀ group, firstGroup? pattern.toList = some group → ∀ choice ∈ Text.splitAt ',' group.inside,
      (group.before ++ choice ++ group.after).length < pattern.toList.length) ∧
    (∀ text ∈ expand pattern.toList, ¬ HasGroup text) ∧
    (WellNested pattern.toList →
      (∀ text, text ∈ expand pattern.toList ↔ Denotes pattern.toList text) ∧
      ∀ path, Selection.isExcluded path [pattern] = true ↔
        ∃ text, Denotes pattern.toList text ∧ matchesWildcards text path.toList = true) := by
  refine ⟨?_, fun text member => not_hasGroup_of_mem_expand member, fun nested => ⟨?_, ?_⟩⟩
  · intro group found choice member
    have whole := length_of_firstGroup? found
    have part := length_le_of_mem_splitAt member
    simp only [List.length_append]
    omega
  · exact fun text => mem_expand_iff nested
  · intro path
    rw [Selection.isExcluded, List.any_cons, List.any_nil, Bool.or_false, List.any_eq_true]
    exact exists_congr fun text => and_congr_left fun _ => mem_expand_iff nested

theorem expand_language_nested :
    WellNested "\x7ba,\x7bb,\x7dc\x7dd,e".toList ∧
      "cd,e".toList ∈ expand "\x7ba,\x7bb,\x7dc\x7dd,e".toList ∧
      Selection.isExcluded "cd,e" ["\x7ba,\x7bb,\x7dc\x7dd,e"] = true := by
  have nested : WellNested "\x7ba,\x7bb,\x7dc\x7dd,e".toList := by decide
  obtain ⟨-, -, language⟩ := expand_language "\x7ba,\x7bb,\x7dc\x7dd,e"
  obtain ⟨members, excluded⟩ := language nested
  have empty : [] ∈ alternatives ['b', ','] := by decide
  have second : ['\x7b', 'b', ',', '\x7d', 'c'] ∈
      alternatives ['a', ',', '\x7b', 'b', ',', '\x7d', 'c'] := by decide
  have inner : Denotes ['\x7b', 'b', ',', '\x7d', 'c'] ['c'] :=
    .group (by decide) empty .nil (.char rfl .nil)
  have rest : Denotes ['d', ',', 'e'] ['d', ',', 'e'] := .char rfl (.char rfl (.char rfl .nil))
  have whole : Denotes "\x7ba,\x7bb,\x7dc\x7dd,e".toList "cd,e".toList :=
    .group (by decide) second inner rest
  exact ⟨nested, (members _).2 whole, (excluded _).2 ⟨_, whole, by decide⟩⟩

end Phrasebook.Braces
