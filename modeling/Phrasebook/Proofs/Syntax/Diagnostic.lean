import Mathlib.Data.List.Flatten
import Phrasebook.Proofs.Sorting
import Phrasebook.Proofs.Syntax.Place
import Phrasebook.Script.Source

namespace Phrasebook.Syntax

open Node

/-- A node that stands for something the grammar does not allow. -/
def isFlaw (node : Node) : Bool := node.missing || node.kind == errorKind

def isReported (elementsDisabled : Bool) (node : Node) : Bool :=
  isFlaw node || elementsDisabled && isElement node

theorem isReported_false : isReported false = isFlaw := by
  funext node
  rw [isReported, Bool.false_and, Bool.or_false]

/-- All nodes around a flaw say that there is one inside. -/
def ErrorsShown (root : Node) : Prop :=
  ∀ outer ∈ root.preorder, ∀ child ∈ outer.children, ∀ node ∈ child.preorder,
    isFlaw node = true → outer.hasError = true

instance (root : Node) : Decidable (ErrorsShown root) :=
  inferInstanceAs (Decidable (∀ outer ∈ root.preorder, ∀ child ∈ outer.children,
    ∀ node ∈ child.preorder, isFlaw node = true → outer.hasError = true))

section

variable (source : List UInt8) (disabled : Bool) {node : Node} {d : Diagnostic}

theorem mistakeOf?_of_isFlaw (flaw : isFlaw node = true) :
    ∃ d, mistakeOf? source disabled node = some d ∧ mistakeOf? source false node = some d ∧
      d.mistake ≠ .elementsDisabled := by
  simp only [mistakeOf?]
  cases missing : node.missing with
  | true => exact ⟨_, rfl, rfl, nofun⟩
  | false =>
    rw [isFlaw, missing, Bool.false_or] at flaw
    rw [flaw]
    exact ⟨_, rfl, rfl, nofun⟩

theorem mistakeOf?_of_not_isFlaw (sound : isFlaw node = false) :
    mistakeOf? source disabled node =
      if disabled && isElement node then
        some ⟨.elementsDisabled, Text.Position.ofOffset source node.start, node.start, false⟩
      else none := by
  rw [isFlaw, Bool.or_eq_false_iff] at sound
  simp only [mistakeOf?, sound.1, sound.2, Bool.false_eq_true, if_false]

theorem isSome_mistakeOf? : (mistakeOf? source disabled node).isSome = isReported disabled node := by
  unfold isReported
  cases flaw : isFlaw node with
  | true =>
    obtain ⟨d, found, _⟩ := mistakeOf?_of_isFlaw source disabled flaw
    rw [found]
    rfl
  | false =>
    rw [mistakeOf?_of_not_isFlaw source disabled flaw]
    cases disabled && isElement node <;> rfl

theorem mistake_eq_elementsDisabled_iff (found : mistakeOf? source disabled node = some d) :
    d.mistake = .elementsDisabled ↔ isFlaw node = false := by
  cases flaw : isFlaw node with
  | true =>
    obtain ⟨d', found', _, other⟩ := mistakeOf?_of_isFlaw source disabled flaw
    obtain rfl := Option.some.inj (found.symm.trans found')
    simpa using other
  | false =>
    rw [mistakeOf?_of_not_isFlaw source disabled flaw, Option.ite_none_right_eq_some] at found
    cases found.2
    simp

theorem fatal_eq_false_of_elementsDisabled (found : mistakeOf? source disabled node = some d)
    (element : d.mistake = .elementsDisabled) : d.fatal = false := by
  have sound := (mistake_eq_elementsDisabled_iff source disabled found).1 element
  rw [mistakeOf?_of_not_isFlaw source disabled sound, Option.ite_none_right_eq_some] at found
  cases found.2
  rfl

theorem judge_taken? : (judge source disabled node).taken? = mistakeOf? source disabled node := by
  unfold judge
  cases mistakeOf? source disabled node with
  | some d => rfl
  | none => cases node.hasError || disabled <;> rfl

theorem judge_stops :
    (judge source disabled node).stops = (isReported disabled node || !(node.hasError || disabled)) := by
  rw [← isSome_mistakeOf? source disabled, judge]
  cases mistakeOf? source disabled node with
  | some d => rfl
  | none => cases node.hasError || disabled <;> rfl

theorem outermost_eq_nil_of_stops {root : Node} (shown : ErrorsShown root) {place : Place}
    (stands : root.at? place = some node) (stops : (judge source disabled node).stops = true)
    (unreported : isReported disabled node = false) : node.outermost (isReported disabled) = [] := by
  rw [judge_stops, unreported, Bool.false_or, Bool.not_eq_true', Bool.or_eq_false_iff] at stops
  obtain ⟨clean, rfl⟩ := stops
  refine List.eq_nil_iff_forall_not_mem.2 fun (inner, x) member => ?_
  obtain ⟨there, reported, _⟩ := mem_outermost_iff.1 member
  have flaw : isFlaw x = true := by simpa [isReported] using reported
  cases inner with
  | nil =>
    obtain rfl := Option.some.inj there
    rw [reported] at unreported
    cases unreported
  | cons i inner =>
    obtain ⟨child, found, there⟩ := at?_cons_eq_some_iff.1 there
    rw [shown node (mem_preorder_iff.2 ⟨place, stands⟩) child (List.mem_of_getElem? found) x
      (mem_preorder_iff.2 ⟨inner, there⟩) flaw] at clean
    cases clean

/-- The search that passes over what shows no error finds what a search of the whole tree would. -/
theorem mistakes_eq_filterMap {root : Node} (shown : ErrorsShown root) :
    mistakes source disabled root =
      (root.outermost (isReported disabled)).filterMap fun site => mistakeOf? source disabled site.2 := by
  have weaker : ∀ node, isReported disabled node = true → (judge source disabled node).stops = true :=
    fun node reported => by rw [judge_stops source disabled, reported, Bool.true_or]
  rw [mistakes, sweep_singleton, gather_eq_filterMap, outermost_of_imp weaker root,
    List.filterMap_flatMap, List.filterMap_eq_flatMap_toList]
  refine List.flatMap_congr fun (place, node) member => ?_
  obtain ⟨stands, stops, _⟩ := mem_outermost_iff.1 member
  dsimp only
  rw [judge_taken? source disabled]
  cases reported : isReported disabled node with
  | true =>
    rw [outermost_of_holds reported]
    cases found : mistakeOf? source disabled node <;> simp [Site.below, found]
  | false =>
    rw [outermost_eq_nil_of_stops source disabled shown stands stops reported]
    rw [← isSome_mistakeOf? source disabled, Option.isSome_eq_false_iff,
      Option.isNone_iff_eq_none] at reported
    rw [reported]
    rfl

theorem exists_outermost_isFlaw_perm (disabled : Bool) (root : Node) :
    let kept := (root.outermost (isReported disabled)).filter fun site => isFlaw site.2
    kept.Sublist (root.outermost isFlaw) ∧
      ∃ dropped, (∀ site ∈ dropped, Outermost isFlaw root site.1 site.2 ∧ Under isElement root site.1) ∧
        (root.outermost isFlaw).Perm (kept ++ dropped) := by
  intro kept
  let sites := root.outermost (isReported disabled)
  let flaws : Site → List Site := fun site => (site.2.outermost isFlaw).map (Site.below site.1)
  have all : root.outermost isFlaw = sites.flatMap flaws :=
    outermost_of_imp (fun node flaw => by rw [isReported, flaw, Bool.true_or]) root
  have same : kept.flatMap flaws = kept := by
    have sole : ∀ site ∈ kept, flaws site = [site] := by
      intro (place, node) member
      have flaw : isFlaw node = true := (List.mem_filter.1 member).2
      simp [flaws, outermost_of_holds flaw, Site.below]
    rw [List.flatMap_congr sole, List.flatMap_singleton']
  have split := (List.filter_append_perm (fun site => isFlaw site.2) sites).symm.flatMap_right flaws
  rw [← all, List.flatMap_append, same] at split
  refine ⟨?_, _, fun site member => ?_, split⟩
  · rw [← same, all]
    exact List.filter_sublist.flatMap flaws
  · have outermost := mem_outermost_iff.1 (split.mem_iff.2 (List.mem_append_right kept member))
    obtain ⟨⟨place, node⟩, found, below⟩ := List.mem_flatMap.1 member
    obtain ⟨reported, sound⟩ := List.mem_filter.1 found
    obtain ⟨⟨inner, x⟩, flaw, rfl⟩ := List.mem_map.1 below
    obtain ⟨stands, reported, _⟩ := mem_outermost_iff.1 reported
    replace sound : isFlaw node = false := by simpa using sound
    rw [isReported, sound, Bool.false_or, Bool.and_eq_true] at reported
    refine ⟨outermost, place, node, List.prefix_append _ _, fun whole => ?_, stands, reported.2⟩
    obtain rfl := List.self_eq_append_right.1 whole
    rw [(outermost_nil_iff.1 (mem_outermost_iff.1 flaw)).1] at sound
    cases sound

end

structure Arranged (found diagnostics : List Diagnostic) : Prop where
  ordered : diagnostics.Pairwise fun a b => a.offset ≤ b.offset
  stable : ∀ offset, diagnostics.filter (·.offset = offset) = found.filter (·.offset = offset)

section

variable (source : List UInt8) (disabled : Bool) {root : Node}

theorem offset_trans (a b c : Diagnostic) (first : decide (a.offset ≤ b.offset) = true)
    (second : decide (b.offset ≤ c.offset) = true) : decide (a.offset ≤ c.offset) = true := by
  simp only [decide_eq_true_eq] at first second ⊢
  omega

theorem offset_total (a b : Diagnostic) :
    (decide (a.offset ≤ b.offset) || decide (b.offset ≤ a.offset)) = true := by
  simp only [Bool.or_eq_true, decide_eq_true_eq]
  omega

theorem arranged_diagnostics :
    Arranged (mistakes source disabled root) (diagnostics source disabled root) where
  ordered := (List.pairwise_mergeSort offset_trans offset_total _).imp of_decide_eq_true
  stable offset := by
    refine filter_mergeSort_of_tied offset_trans offset_total fun a _ b _ here there => ?_
    rw [of_decide_eq_true here, of_decide_eq_true there]
    exact decide_eq_true (Nat.le_refl _)

theorem filter_mistakes (shown : ErrorsShown root) :
    (mistakes source disabled root).filter (·.mistake ≠ .elementsDisabled) =
      ((root.outermost (isReported disabled)).filter fun site => isFlaw site.2).filterMap
        fun site => mistakeOf? source false site.2 := by
  rw [mistakes_eq_filterMap source disabled shown, List.filter_filterMap, List.filterMap_filter]
  refine List.filterMap_congr fun (_, node) _ => ?_
  cases flaw : isFlaw node with
  | true =>
    obtain ⟨d, found, found', other⟩ := mistakeOf?_of_isFlaw source disabled flaw
    simp [found, found', other]
  | false =>
    cases found : mistakeOf? source disabled node with
    | none => rfl
    | some d => simp [(mistake_eq_elementsDisabled_iff source disabled found).2 flaw]

theorem sublist_diagnostics (shown : ErrorsShown root) :
    let kept := (diagnostics source disabled root).filter (·.mistake ≠ .elementsDisabled)
    kept.Sublist (diagnostics source false root) ∧
      ∃ dropped : List Site,
        (∀ site ∈ dropped, Outermost isFlaw root site.1 site.2 ∧ Under isElement root site.1) ∧
        (diagnostics source false root).Perm
          (kept ++ dropped.filterMap fun site => mistakeOf? source false site.2) := by
  intro kept
  obtain ⟨inside, dropped, below, split⟩ := exists_outermost_isFlaw_perm disabled root
  have sorted := filter_mergeSort offset_trans offset_total (·.mistake ≠ .elementsDisabled)
    (mistakes source disabled root)
  rw [filter_mistakes source disabled shown] at sorted
  have whole := mistakes_eq_filterMap source false shown
  rw [isReported_false] at whole
  constructor
  · rw [show kept = _ from sorted, diagnostics, whole]
    exact mergeSort_sublist_mergeSort offset_trans offset_total (inside.filterMap _)
  · refine ⟨dropped, below, (List.mergeSort_perm _ _).trans ?_⟩
    have parts := split.filterMap fun site => mistakeOf? source false site.2
    rw [List.filterMap_append, ← whole] at parts
    refine parts.trans (List.Perm.append_right _ ?_)
    rw [show kept = _ from sorted]
    exact (List.mergeSort_perm _ _).symm

end

end Phrasebook.Syntax

namespace Phrasebook.Script

open Syntax Node

theorem SyntaxTree.diagnostics_true (tree : SyntaxTree) :
    tree.diagnostics true = Syntax.diagnostics tree.source false tree.root := by
  rw [diagnostics, Bool.not_true, Bool.and_false]

/-- What is reported for a tree whose nodes say where the errors are: the outermost flaws and, where
    elements are disabled, the outermost ones of these and the elements, by offset. Disabling elements
    loses the flaws inside of them alone, and no element is fatal. -/
theorem SyntaxTree.diagnostics_of_errorsShown (tree : SyntaxTree) (shown : ErrorsShown tree.root) :
    (∀ elements,
      let disabled := tree.grammar == .javascript && !elements
      ∃ (sites : List Site) (found : List Diagnostic),
        (∀ place node,
          (place, node) ∈ sites ↔ Outermost (isReported disabled) tree.root place node) ∧
        sites.Pairwise (fun a b => a.1.Before b.1) ∧
        (sites.map fun site => mistakeOf? tree.source disabled site.2) = found.map some ∧
        Arranged found (tree.diagnostics elements) ∧
        ∀ d ∈ tree.diagnostics elements, d.mistake = .elementsDisabled → d.fatal = false) ∧
    let kept := (tree.diagnostics false).filter (·.mistake ≠ .elementsDisabled)
    kept.Sublist (tree.diagnostics true) ∧
      ∃ dropped : List Site,
        (∀ site ∈ dropped,
          Outermost isFlaw tree.root site.1 site.2 ∧ Under isElement tree.root site.1) ∧
        (tree.diagnostics true).Perm
          (kept ++ dropped.filterMap fun site => mistakeOf? tree.source false site.2) := by
  have all (elements : Bool) := mistakes_eq_filterMap tree.source
    (tree.grammar == .javascript && !elements) shown
  refine ⟨fun elements => ?_, ?_⟩
  · intro disabled
    have found : ∀ site ∈ tree.root.outermost (isReported disabled),
        (mistakeOf? tree.source disabled site.2).isSome = true :=
      fun site member =>
        (isSome_mistakeOf? tree.source disabled).trans (mem_outermost_iff.1 member).holds
    refine ⟨tree.root.outermost (isReported disabled), mistakes tree.source disabled tree.root,
      fun _ _ => mem_outermost_iff, pairwise_outermost _ _, ?_, arranged_diagnostics _ _,
      fun d member => ?_⟩
    · rw [all elements, List.map_filterMap_some_eq_filter_map_isSome, List.filter_eq_self.2]
      intro mistake member
      obtain ⟨site, inside, rfl⟩ := List.mem_map.1 member
      exact found site inside
    · have mine := (List.mergeSort_perm _ _).mem_iff.1 member
      rw [all elements] at mine
      obtain ⟨site, -, reported⟩ := List.mem_filterMap.1 mine
      exact fatal_eq_false_of_elementsDisabled _ _ reported
  · rw [tree.diagnostics_true]
    exact sublist_diagnostics _ _ shown

section

def flawedTree : Node :=
  branch "program" 0 [branch "jsx_element" 0 [leaf "identifier" true 0 3, leaf errorKind true 3 4],
    assumed ";" 9, branch "expression_statement" 9 [leaf "number" true 9 10]]

def flawedScript : SyntaxTree := ⟨flawedTree, Text.encode "<a>@</a> 1 + 2".toList, .javascript⟩

/-- The flaw inside an element is found only where elements are enabled; the one behind it either
    way. -/
theorem diagnostics_of_errorsShown_flawedScript :
    ErrorsShown flawedScript.root ∧
      (flawedScript.root.outermost (isReported true)).map (·.1) = [[0], [1]] ∧
      (flawedScript.root.outermost isFlaw).map (·.1) = [[0, 1], [1]] ∧
      (∀ d ∈ flawedScript.diagnostics false, d.mistake = .elementsDisabled → d.fatal = false) ∧
      ((flawedScript.diagnostics false).filter (·.mistake ≠ .elementsDisabled)).Sublist
        (flawedScript.diagnostics true) := by
  have shown : ErrorsShown flawedScript.root := by decide
  obtain ⟨reported, kept, -⟩ := flawedScript.diagnostics_of_errorsShown shown
  obtain ⟨_, _, -, -, -, -, survived⟩ := reported false
  exact ⟨shown, by decide, by decide, survived, kept⟩

end

end Phrasebook.Script
