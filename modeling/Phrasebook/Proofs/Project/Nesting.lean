import Phrasebook.Proofs.Project.Braces

namespace Phrasebook.Braces

def depthBehind (depth : Nat) (c : Char) : Option Nat :=
  if c = '\x7b' then some (depth + 1)
  else if c = '\x7d' then if depth = 0 then none else some (depth - 1)
  else some depth

def depthAfter (depth : Nat) (text : List Char) : Option Nat := text.foldlM depthBehind depth

/-- Every brace has its partner, and no group begins in another one without ending there. -/
def WellNested (text : List Char) : Prop := depthAfter 0 text = some 0

instance (text : List Char) : Decidable (WellNested text) :=
  inferInstanceAs (Decidable (depthAfter 0 text = some 0))

def addFirst (front : List Char) : List (List Char) → List (List Char)
  | [] => [front]
  | part :: parts => (front ++ part) :: parts

def alternativesFrom : (depth : Nat) → List Char → List (List Char)
  | _, [] => [[]]
  | depth, c :: text =>
    if c = ',' ∧ depth = 0 then [] :: alternativesFrom 0 text
    else addFirst [c] (alternativesFrom ((depthBehind depth c).getD 0) text)

def alternatives (text : List Char) : List (List Char) := alternativesFrom 0 text

section

variable {depth : Nat} {c : Char} {text : List Char}

theorem depthBehind_of_plain (plain : isBrace c = false) : depthBehind depth c = some depth := by
  obtain ⟨opening, closing⟩ := isBrace_eq_false_iff.1 plain
  rw [depthBehind, if_neg opening, if_neg closing]

theorem depthBehind_eq_none_iff : depthBehind depth c = none ↔ c = '\x7d' ∧ depth = 0 := by
  unfold depthBehind
  by_cases opening : c = '\x7b'
  · simp [opening]
  · by_cases closing : c = '\x7d'
    · simp [closing]
    · simp [opening, closing]

theorem depthAfter_cons : depthAfter depth (c :: text) =
    (depthBehind depth c).bind (depthAfter · text) := rfl

theorem depthAfter_append (front back : List Char) :
    depthAfter depth (front ++ back) = (depthAfter depth front).bind (depthAfter · back) := by
  rw [depthAfter, List.foldlM_append]
  rfl

theorem depthAfter_of_plain (plain : ∀ c ∈ text, isBrace c = false) :
    depthAfter depth text = some depth := by
  induction text with
  | nil => rfl
  | cons c text ih =>
    obtain ⟨first, others⟩ := List.forall_mem_cons.1 plain
    rw [depthAfter_cons, depthBehind_of_plain first, Option.bind_some, ih others]

end

def closing? : (depth : Nat) → List Char → Option (List Char × List Char)
  | _, [] => none
  | depth, c :: text =>
    match depthBehind depth c with
    | none => some ([], text)
    | some depth => (closing? depth text).map fun (inside, after) => (c :: inside, after)

theorem closing?_eq_some_iff {depth : Nat} {text inside after : List Char} :
    closing? depth text = some (inside, after) ↔
      depthAfter depth inside = some 0 ∧ text = inside ++ '\x7d' :: after := by
  induction text generalizing depth inside with
  | nil => simp [closing?]
  | cons c text ih =>
    rw [closing?]
    cases behind : depthBehind depth c with
    | none =>
      obtain ⟨rfl, rfl⟩ := depthBehind_eq_none_iff.1 behind
      cases inside with
      | nil => simp [depthAfter, eq_comm]
      | cons d inside =>
        have never : ¬ (depthAfter 0 (d :: inside) = some 0 ∧
            '\x7d' :: text = d :: inside ++ '\x7d' :: after) := by
          intro ⟨nested, same⟩
          obtain ⟨rfl, _⟩ := List.cons.inj same
          rw [depthAfter_cons, behind] at nested
          cases nested
        simpa using never
    | some next =>
      cases inside with
      | nil =>
        have open' : ¬ (depth = 0 ∧ c = '\x7d') := by
          intro ⟨zero, closing⟩
          rw [depthBehind_eq_none_iff.2 ⟨closing, zero⟩] at behind
          cases behind
        simpa [depthAfter] using fun zero closing => absurd ⟨zero, closing⟩ open'
      | cons d inside =>
        simp only [Option.map_eq_some_iff, Prod.mk.injEq, List.cons.injEq, List.cons_append]
        constructor
        · intro ⟨⟨inner, rest⟩, found, ⟨first, others⟩, last⟩
          simp only at first others last
          subst first others last
          obtain ⟨nested, whole⟩ := ih.1 found
          rw [depthAfter_cons, behind]
          exact ⟨nested, rfl, whole⟩
        · intro ⟨nested, first, whole⟩
          subst first
          rw [depthAfter_cons, behind] at nested
          exact ⟨(inside, after), ih.2 ⟨nested, whole⟩, ⟨rfl, rfl⟩, rfl⟩

theorem closing?_append_of_some {depth behind : Nat} {front : List Char}
    (h : depthAfter depth front = some behind) (text : List Char) :
    closing? depth (front ++ text) =
      (closing? behind text).map fun (inside, after) => (front ++ inside, after) := by
  induction front generalizing depth with
  | nil =>
    obtain rfl : depth = behind := Option.some.inj h
    simp
  | cons c front ih =>
    rw [depthAfter_cons] at h
    obtain ⟨next, first, others⟩ := Option.bind_eq_some_iff.1 h
    rw [List.cons_append, closing?, first]
    simp only [ih others, Option.map_map]
    rfl

theorem closing?_append_of_none {depth : Nat} {front : List Char}
    (h : depthAfter depth front = none) :
    ∃ inside rest, rest.length < front.length ∧
      ∀ text, closing? depth (front ++ text) = some (inside, rest ++ text) := by
  induction front generalizing depth with
  | nil => cases h
  | cons c front ih =>
    cases first : depthBehind depth c with
    | none =>
      refine ⟨[], front, Nat.lt_succ_self _, fun text => ?_⟩
      rw [List.cons_append, closing?, first]
    | some next =>
      rw [depthAfter_cons, first] at h
      obtain ⟨inside, rest, shorter, found⟩ := ih h
      refine ⟨c :: inside, rest, Nat.lt_succ_of_lt shorter, fun text => ?_⟩
      rw [List.cons_append, closing?, first]
      simp only [found, Option.map_some]

section

variable {depth : Nat} {text : List Char}

theorem addFirst_addFirst (front next : List Char) (parts : List (List Char)) :
    addFirst front (addFirst next parts) = addFirst (front ++ next) parts := by
  cases parts <;> simp [addFirst]

theorem exists_alternativesFrom (depth : Nat) (text : List Char) :
    ∃ part parts, alternativesFrom depth text = part :: parts := by
  cases text with
  | nil => exact ⟨[], [], rfl⟩
  | cons c text =>
    rw [alternativesFrom]
    split
    · exact ⟨_, _, rfl⟩
    · cases alternativesFrom ((depthBehind depth c).getD 0) text <;> exact ⟨_, _, rfl⟩

theorem addFirst_nil_alternativesFrom (depth : Nat) (text : List Char) :
    addFirst [] (alternativesFrom depth text) = alternativesFrom depth text := by
  obtain ⟨part, parts, whole⟩ := exists_alternativesFrom depth text
  rw [whole]
  rfl

theorem length_le_of_mem_alternativesFrom {part : List Char}
    (h : part ∈ alternativesFrom depth text) : part.length ≤ text.length := by
  induction text generalizing depth part with
  | nil =>
    rw [alternativesFrom, List.mem_singleton] at h
    simp [h]
  | cons c text ih =>
    rw [alternativesFrom] at h
    split at h
    · rcases List.mem_cons.1 h with rfl | h
      · exact Nat.zero_le _
      · exact Nat.le_succ_of_le (ih h)
    · obtain ⟨first, others, whole⟩ :=
        exists_alternativesFrom ((depthBehind depth c).getD 0) text
      rw [whole] at h
      have bound : ∀ other ∈ first :: others, other.length ≤ text.length := by
        intro other member
        exact ih (whole ▸ member)
      rcases List.mem_cons.1 h with rfl | h
      · exact Nat.succ_le_succ (bound first List.mem_cons_self)
      · exact Nat.le_succ_of_le (bound part (List.mem_cons_of_mem _ h))

end

structure Inert (piece : List Char) : Prop where
  depth : ∀ depth, depthAfter depth piece = some depth
  whole : ∀ depth text,
    alternativesFrom depth (piece ++ text) = addFirst piece (alternativesFrom depth text)

theorem Inert.depthAfter_between {piece : List Char} (inert : Inert piece) (depth : Nat)
    (before after : List Char) :
    depthAfter depth (before ++ piece ++ after) = depthAfter depth (before ++ after) := by
  have kept : depthAfter depth (before ++ piece) = depthAfter depth before := by
    rw [depthAfter_append]
    cases depthAfter depth before with
    | none => rfl
    | some behind => exact inert.depth behind
  rw [depthAfter_append, kept, depthAfter_append]

theorem Inert.closing?_between {piece before : List Char} {depth : Nat} (inert : Inert piece)
    (opened : depthAfter 0 before = some depth) (after : List Char) :
    closing? 0 (before ++ piece ++ after) =
      (closing? depth after).map fun (last, rest) => (before ++ piece ++ last, rest) := by
  apply closing?_append_of_some
  rw [depthAfter_append, opened, Option.bind_some, inert.depth]

theorem alternativesFrom_append_of_plain {depth : Nat} {piece : List Char}
    (plain : ∀ c ∈ piece, isBrace c = false) (inner : depth ≠ 0 ∨ ',' ∉ piece) (text : List Char) :
    alternativesFrom depth (piece ++ text) = addFirst piece (alternativesFrom depth text) := by
  induction piece with
  | nil => rw [List.nil_append, addFirst_nil_alternativesFrom]
  | cons c piece ih =>
    obtain ⟨first, others⟩ := List.forall_mem_cons.1 plain
    have comma : ¬ (c = ',' ∧ depth = 0) := by
      intro ⟨same, zero⟩
      rcases inner with open' | absent
      · exact open' zero
      · exact absent (same ▸ List.mem_cons_self)
    have rest := ih others (inner.imp_right fun absent member => absent (List.mem_cons_of_mem _ member))
    rw [List.cons_append, alternativesFrom, if_neg comma, depthBehind_of_plain first, Option.getD_some,
      rest, addFirst_addFirst]
    rfl

theorem inert_of_plain {piece : List Char} (plain : ∀ c ∈ piece, isBrace c = false)
    (absent : ',' ∉ piece) : Inert piece :=
  ⟨fun _ => depthAfter_of_plain plain, fun _ => alternativesFrom_append_of_plain plain (.inr absent)⟩

theorem inert_flat {inside : List Char} (plain : ∀ c ∈ inside, isBrace c = false) :
    Inert (flat inside) := by
  have opened : ∀ depth, depthBehind depth '\x7b' = some (depth + 1) := fun _ => rfl
  have closed : ∀ depth, depthBehind (depth + 1) '\x7d' = some depth := fun _ => rfl
  constructor
  · intro depth
    rw [flat, List.cons_append, depthAfter_cons, opened, Option.bind_some, depthAfter_append,
      depthAfter_of_plain plain]
    rfl
  · intro depth text
    have inner : depth + 1 ≠ 0 := Nat.succ_ne_zero depth
    have last : alternativesFrom (depth + 1) ('\x7d' :: text) =
        addFirst ['\x7d'] (alternativesFrom depth text) := by
      rw [alternativesFrom, if_neg (by simp), closed, Option.getD_some]
    have first : alternativesFrom depth ('\x7b' :: (inside ++ '\x7d' :: text)) =
        addFirst ['\x7b'] (alternativesFrom (depth + 1) (inside ++ '\x7d' :: text)) := by
      rw [alternativesFrom, if_neg (by simp), opened, Option.getD_some]
    have whole : flat inside ++ text = '\x7b' :: (inside ++ '\x7d' :: text) := by simp [flat]
    rw [whole, first, alternativesFrom_append_of_plain plain (.inl inner), last, addFirst_addFirst,
      addFirst_addFirst]
    simp [flat]

theorem exists_alternative (depth : Nat) (before after : List Char) :
    ∃ earlier front back later, ∀ piece, Inert piece →
      alternativesFrom depth (before ++ piece ++ after) =
        earlier ++ (front ++ piece ++ back) :: later := by
  induction before generalizing depth with
  | nil =>
    obtain ⟨part, parts, whole⟩ := exists_alternativesFrom depth after
    refine ⟨[], [], part, parts, fun piece inert => ?_⟩
    rw [List.nil_append, inert.whole, whole]
    rfl
  | cons c before ih =>
    by_cases comma : c = ',' ∧ depth = 0
    · obtain ⟨earlier, front, back, later, whole⟩ := ih 0
      refine ⟨[] :: earlier, front, back, later, fun piece inert => ?_⟩
      rw [List.cons_append, List.cons_append, alternativesFrom, if_pos comma, whole piece inert]
      rfl
    · obtain ⟨earlier, front, back, later, whole⟩ := ih ((depthBehind depth c).getD 0)
      cases earlier with
      | nil =>
        refine ⟨[], c :: front, back, later, fun piece inert => ?_⟩
        rw [List.cons_append, List.cons_append, alternativesFrom, if_neg comma, whole piece inert]
        rfl
      | cons part earlier =>
        refine ⟨(c :: part) :: earlier, front, back, later, fun piece inert => ?_⟩
        rw [List.cons_append, List.cons_append, alternativesFrom, if_neg comma, whole piece inert]
        rfl

theorem alternatives_of_plain {inside : List Char} (plain : ∀ c ∈ inside, isBrace c = false) :
    alternatives inside = Text.splitAt ',' inside := by
  unfold alternatives
  induction inside with
  | nil => rfl
  | cons c inside ih =>
    obtain ⟨first, others⟩ := List.forall_mem_cons.1 plain
    rw [alternativesFrom, depthBehind_of_plain first, Option.getD_some, ih others, Text.splitAt]
    by_cases comma : c = ','
    · simp [comma]
    · simp only [comma, false_and, if_false, beq_iff_eq]
      cases Text.splitAt ',' inside <;> rfl

theorem exists_inside {depth : Nat} {text : List Char} (unopened : '\x7b' ∉ text)
    (nested : depthAfter (depth + 1) text = some 0) :
    ∃ inside after, inside? text = some (inside, after) := by
  induction text with
  | nil => cases nested
  | cons c text ih =>
    rw [List.mem_cons, not_or] at unopened
    by_cases closing : c = '\x7d'
    · exact ⟨[], text, inside?_eq_some_iff.2 ⟨by simp, by rw [closing, List.nil_append]⟩⟩
    · have plain := isBrace_eq_false_iff.2 ⟨fun same => unopened.1 same.symm, closing⟩
      rw [depthAfter_cons, depthBehind_of_plain plain] at nested
      obtain ⟨inside, after, found⟩ := ih unopened.2 nested
      obtain ⟨others, whole⟩ := inside?_eq_some_iff.1 found
      refine ⟨c :: inside, after, inside?_eq_some_iff.2 ⟨List.forall_mem_cons.2 ⟨plain, others⟩, ?_⟩⟩
      rw [whole, List.cons_append]

theorem opening_not_mem {depth : Nat} {text : List Char} (nested : depthAfter depth text = some 0)
    (h : firstGroup? text = none) : '\x7b' ∉ text := by
  induction text generalizing depth with
  | nil => exact List.not_mem_nil
  | cons c text ih =>
    rw [depthAfter_cons] at nested
    by_cases opening : c = '\x7b'
    · subst opening
      obtain ⟨unclosed, others⟩ := firstGroup?_opening_eq_none h
      have inner : depthAfter (depth + 1) text = some 0 := nested
      obtain ⟨inside, after, found⟩ := exists_inside (ih inner others) inner
      rw [unclosed] at found
      cases found
    · rw [firstGroup?_cons_of_ne opening, Option.map_eq_none_iff] at h
      obtain ⟨next, _, rest⟩ := Option.bind_eq_some_iff.1 nested
      rw [List.mem_cons, not_or]
      exact ⟨fun same => opening same.symm, ih rest h⟩

theorem closing_not_mem {text : List Char} (unopened : '\x7b' ∉ text)
    (nested : depthAfter 0 text = some 0) : '\x7d' ∉ text := by
  induction text with
  | nil => exact List.not_mem_nil
  | cons c text ih =>
    rw [List.mem_cons, not_or] at unopened ⊢
    rw [depthAfter_cons] at nested
    by_cases closing : c = '\x7d'
    · subst closing
      cases nested
    · have plain := isBrace_eq_false_iff.2 ⟨fun same => unopened.1 same.symm, closing⟩
      rw [depthBehind_of_plain plain] at nested
      exact ⟨fun same => closing same.symm, ih unopened.2 nested⟩

theorem plain_of_wellNested {text : List Char} (nested : WellNested text)
    (h : firstGroup? text = none) : ∀ c ∈ text, isBrace c = false := by
  have unopened := opening_not_mem nested h
  have unclosed := closing_not_mem unopened nested
  intro c member
  rw [isBrace_eq_false_iff]
  exact ⟨fun same => unopened (same ▸ member), fun same => unclosed (same ▸ member)⟩

end Phrasebook.Braces
