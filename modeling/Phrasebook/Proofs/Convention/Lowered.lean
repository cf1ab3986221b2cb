import Phrasebook.Proofs.Convention.Finds
import Phrasebook.Proofs.Text.Position

namespace Phrasebook

open Convention Text

def Item.lowered (lines : Nat) (item : Item) : Item := { item with line := item.line + lines }

theorem Item.lowered_zero (item : Item) : item.lowered 0 = item := by
  simp [lowered]

theorem Item.lowered_lowered (item : Item) (lines lines' : Nat) :
    (item.lowered lines).lowered lines' = item.lowered (lines + lines') := by
  simp [lowered, Int.add_assoc]

theorem Item.map_lowered_zero (items : List Item) : items.map (Item.lowered 0) = items := by
  rw [List.map_congr_left fun item _ => item.lowered_zero, List.map_id']

theorem Item.map_lowered_lowered (lines lines' : Nat) (items : List Item) :
    (items.map (Item.lowered lines)).map (Item.lowered lines') = items.map (Item.lowered (lines + lines')) := by
  rw [List.map_map]
  exact List.map_congr_left fun item _ => item.lowered_lowered lines lines'

theorem Item.create_succ (key : Wording) (file : String) (line : Nat) (column : Int)
    (declared : Option (List Wording)) :
    create key file (line + 1 : Nat) column declared = (create key file line column declared).lowered 1 := rfl

theorem Item.firstsBy_map_lowered (lines : Nat) (items : List Item) :
    firstsBy Item.key (items.map (Item.lowered lines)) = (firstsBy Item.key items).map (Item.lowered lines) :=
  firstsBy_map (f := Item.lowered lines) Item.key (fun _ _ => Iff.rfl) items

namespace Convention

def Match.further (found : Match) : Match := ⟨found.start + 1, found.stop + 1, found.body⟩

namespace Pattern

theorem match?_after_feed (pattern : Pattern) (text : List Char) :
    pattern.match? (some '\n') text = pattern.match? none text := by
  have wordless : startsWord (some '\n') = startsWord none := by decide
  have named : ∀ name, nameMayStart (some '\n') name = nameMayStart none name := by
    intro name
    cases name with
    | nil => rfl
    | cons c name => rw [nameMayStart, nameMayStart, wordless]
  cases pattern with
  | call wrapping name quote =>
    cases wrapping with
    | bare => simp only [match?, named]
    | braces => rfl
    | doubleBraces => rfl
    | method owner => simp only [match?, wordless]
  | block quote => rfl
  | directive outer inner => rfl

theorem matchesFrom_after_feed (pattern : Pattern) (index : Nat) (text : List Char) :
    pattern.matchesFrom (some '\n') index 0 text = pattern.matchesFrom none index 0 text := by
  cases text with
  | nil => rfl
  | cons c text => rw [matchesFrom, matchesFrom, match?_after_feed]

theorem matchesFrom_succ (pattern : Pattern) (before : Option Char) (index covered : Nat)
    (text : List Char) :
    pattern.matchesFrom before (index + 1) covered text =
      (pattern.matchesFrom before index covered text).map Match.further := by
  induction text generalizing before index covered with
  | nil => rfl
  | cons c text ih =>
    cases covered with
    | succ covered => exact ih (some c) (index + 1) covered
    | zero =>
      rw [matchesFrom, matchesFrom]
      cases pattern.match? before (c :: text) with
      | none => exact ih (some c) (index + 1) 0
      | some read =>
        simp only [ih (some c) (index + 1), List.map_cons, Match.further, List.cons.injEq, Match.mk.injEq,
          true_and, and_true]
        omega

theorem matchesIn_cons_feed {pattern : Pattern} {text : List Char}
    (unmatched : pattern.match? none ('\n' :: text) = none) :
    pattern.matchesIn ('\n' :: text) = (pattern.matchesIn text).map Match.further := by
  rw [matchesIn, matchesFrom, unmatched]
  show pattern.matchesFrom (some '\n') (0 + 1) 0 text = _
  rw [matchesFrom_after_feed, matchesFrom_succ]
  rfl

end Pattern

theorem Spells.head?_ne_feed {names : List String} (inLine : ∀ name ∈ names, name.toList.head? ≠ some '\n')
    {before : Option Char} {body : List Char} {convention : Convention} {spelled : List Char}
    (spells : convention.Spells names before body spelled) (rest : List Char) :
    (spelled ++ rest).head? ≠ some '\n' := by
  cases spells with
  | wrapped => simp
  | doubleWrapped => simp
  | @bare name _ _ listed _ _ calls =>
    obtain ⟨blanks, gap, _, _, _, rfl⟩ := calls
    have first := inLine name listed
    cases spelling : name.toList with
    | nil => simp
    | cons c letters =>
      rw [spelling] at first
      exact first
  | method listed quoted owned =>
    simp only [owners, List.mem_cons, List.not_mem_nil, or_false] at owned
    rcases owned with rfl | rfl <;> simp
  | block => simp
  | directive => simp

theorem match?_cons_feed {names : List String} (inLine : ∀ name ∈ names, name.toList.head? ≠ some '\n')
    {dialect : Dialect} {pattern : Pattern} (member : pattern ∈ dialect.patterns (names.map (·.toList)))
    (before : Option Char) (text : List Char) : pattern.match? before ('\n' :: text) = none := by
  by_contra matched
  obtain ⟨⟨body, rest⟩, found⟩ := Option.ne_none_iff_exists'.1 matched
  obtain ⟨convention, _, tried⟩ := List.mem_flatMap.1 member
  obtain ⟨spelled, spells, whole⟩ := spells_of_match? tried found
  exact spells.head?_ne_feed inLine rest (whole ▸ rfl)

end Convention

namespace Dialect

def Find.further (find : Find) : Find := ⟨find.key, find.index + 1⟩

theorem Find.item_cons_feed (find : Find) (file : String) (document : List Char) (start : Nat) :
    find.item file ('\n' :: document) (start + 1) = (find.item file document start).lowered 1 := by
  have place : start + 1 + find.index = start + find.index + 1 := by omega
  simp only [Find.item, place, Position.ofIndex_cons_feed]
  exact Item.create_succ _ _ _ _ _

theorem Find.item_further (find : Find) (file : String) (document : List Char) (start : Nat) :
    find.further.item file document start = find.item file document (start + 1) := by
  have place : start + (find.index + 1) = start + 1 + find.index := by omega
  simp only [Find.item, Find.further, place]

section

variable (dialect : Dialect) {names : List String} (file : String)

theorem itemsAt_cons_feed (names : List String) (document : List Char) (start : Nat) (part : List Char) :
    dialect.itemsAt names file ('\n' :: document) (start + 1) part =
      (dialect.itemsAt names file document start part).map (Item.lowered 1) := by
  rw [itemsAt_eq, itemsAt_eq, ← Item.firstsBy_map_lowered, List.map_map]
  congr 1
  exact List.map_congr_left fun find _ => find.item_cons_feed file document start

theorem candidates_cons_feed (inLine : ∀ name ∈ names, name.toList.head? ≠ some '\n') (text : List Char) :
    dialect.candidates names ('\n' :: text) = (dialect.candidates names text).map Find.further := by
  have each : ∀ pattern ∈ dialect.patterns (names.map (·.toList)),
      (pattern.matchesIn ('\n' :: text)).map Find.ofMatch =
        ((pattern.matchesIn text).map Find.ofMatch).map Find.further := by
    intro pattern member
    rw [Pattern.matchesIn_cons_feed (match?_cons_feed inLine member none text), List.map_map, List.map_map]
    rfl
  have filled : (fun find : Find => !find.key.isEmpty) ∘ Find.further = fun find => !find.key.isEmpty := rfl
  rw [candidates, candidates, List.flatMap_congr each, ← List.map_flatMap, List.filter_map, filled]

theorem items_cons_feed (inLine : ∀ name ∈ names, name.toList.head? ≠ some '\n') (text : List Char) :
    dialect.items names file ('\n' :: text) = (dialect.items names file text).map (Item.lowered 1) := by
  rw [items, items, ← itemsAt_cons_feed, itemsAt_eq, itemsAt_eq, candidates_cons_feed dialect inLine,
    List.map_map]
  congr 1
  exact List.map_congr_left fun find _ => find.item_further file ('\n' :: text) 0

end

end Dialect

end Phrasebook
