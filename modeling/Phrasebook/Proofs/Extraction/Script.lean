import Phrasebook.Extraction.Script
import Phrasebook.Proofs.Call
import Phrasebook.Proofs.Literal

namespace Phrasebook

open Syntax

namespace Syntax.Node

theorem sizeOf_lt_of_mem_outcomes {node branch : Node} (h : branch ∈ node.outcomes) :
    sizeOf branch < sizeOf node := by
  unfold outcomes at h
  split at h
  · obtain ⟨role, _, found⟩ := List.mem_filterMap.1 h
    exact Nat.lt_of_lt_of_le (sizeOf_lt_of_mem (mem_children_of_child? found)) node.sizeOf_unwrap_le
  · cases h

theorem kind_of_mem_outcomes {node branch : Node} (h : branch ∈ node.outcomes) :
    node.unwrap.kind = "ternary_expression" := by
  unfold outcomes at h
  split at h
  · assumption
  · cases h

inductive Overshoots (source : List UInt8) : Node → Prop
  | string {node : Node} (quoted : node.unwrap.kind = "string")
      (raw : Literal.Overshoots (node.unwrap.innerText source)) : Overshoots source node
  | outcome {node branch : Node} (choice : branch ∈ node.outcomes)
      (below : Overshoots source branch) : Overshoots source node

end Syntax.Node

section

variable {source : List UInt8}

namespace Argument

theorem ofNode_string {node : Node} (quoted : node.unwrap.kind = "string") :
    ofNode source node = (Literal.cook (node.unwrap.innerText source)).map (literal .string) := by
  rw [ofNode]
  simp only [quoted]
  rfl

theorem not_fails_ofNode {node : Node} (unquoted : node.unwrap.kind ≠ "string")
    (single : node.unwrap.kind ≠ "ternary_expression") : ¬ Fails (ofNode source node) := by
  rw [ofNode]
  dsimp only
  rw [if_neg (by simpa using unquoted)]
  split
  · split
    · exact not_fails_ok _
    · exact not_fails_ok _
  · split
    · exact not_fails_ok _
    · rw [if_neg (by simpa using single)]
      exact not_fails_ok _

theorem fails_ofNode_iff (node : Node) : Fails (ofNode source node) ↔ node.Overshoots source := by
  constructor
  · intro fails
    induction size : sizeOf node using Nat.strong_induction_on generalizing node with
    | _ size ih =>
      by_cases choice : node.unwrap.kind = "ternary_expression"
      · rw [ofNode_choice choice, fails_map_iff, fails_mapM_iff] at fails
        obtain ⟨branch, member, below⟩ := fails
        have smaller := Node.sizeOf_lt_of_mem_outcomes member
        exact .outcome member (ih (sizeOf branch) (size ▸ smaller) branch below rfl)
      · by_cases quoted : node.unwrap.kind = "string"
        · rw [ofNode_string quoted, fails_map_iff, Literal.fails_cook_iff] at fails
          exact .string quoted fails
        · exact absurd fails (not_fails_ofNode quoted choice)
  · intro overshoots
    induction overshoots with
    | string quoted raw =>
      rw [ofNode_string quoted, fails_map_iff, Literal.fails_cook_iff]
      exact raw
    | @outcome node branch choice _ ih =>
      rw [ofNode_choice (Node.kind_of_mem_outcomes choice), fails_map_iff, fails_mapM_iff]
      exact ⟨branch, choice, ih⟩

end Argument

theorem CallSite.fails_ofNode_iff (node : Node) :
    Fails (CallSite.ofNode source node) ↔
      ∃ name operands, IsCall source node name operands ∧
        ∃ operand ∈ operands, operand.Overshoots source := by
  have calling : ∀ {name operands}, IsCall source node name operands →
      (Fails (CallSite.ofNode source node) ↔ ∃ operand ∈ operands, operand.Overshoots source) := by
    intro name operands call
    obtain ⟨kind, found⟩ := CallSite.ofNode_of_isCall call
    rw [found, fails_map_iff, fails_mapM_iff]
    simp only [Argument.fails_ofNode_iff]
  constructor
  · intro fails
    by_cases call : ∃ name operands, IsCall source node name operands
    · obtain ⟨name, operands, call⟩ := call
      exact ⟨name, operands, call, (calling call).1 fails⟩
    · rw [CallSite.ofNode_of_not_isCall fun name operands made => call ⟨name, operands, made⟩] at fails
      exact absurd fails (not_fails_ok none)
  · rintro ⟨name, operands, call, overshoots⟩
    exact (calling call).2 overshoots

end

def Script.SyntaxTree.Overshoots (tree : Script.SyntaxTree) : Prop :=
  ∃ node ∈ tree.root.preorder, ∃ name operands, IsCall tree.source node name operands ∧
    ∃ operand ∈ operands, operand.Overshoots tree.source

def Script.Mistaken (parsers : Parsers) (typed elements : Bool) (text : List Char) : Prop :=
  (SyntaxTree.ofText parsers (.choose typed elements) text).diagnostics elements ≠ []

def Script.Overshoots (parsers : Parsers) (typed elements : Bool) (text : List Char) : Prop :=
  ¬ Mistaken parsers typed elements text ∧
    (SyntaxTree.ofText parsers (.choose typed elements) text).Overshoots

namespace Extraction

theorem fails_keyedCalls_iff (names : List String) (tree : Script.SyntaxTree) :
    Fails (keyedCalls names tree) ↔ tree.Overshoots := by
  have calls : Fails (callSites tree.source tree.root) ↔ tree.Overshoots := by
    unfold callSites
    rw [Node.visit_singleton]
    refine (fails_map_iff (g := List.filterMap id)).trans (fails_mapM_iff.trans ?_)
    simp only [CallSite.fails_ofNode_iff]
    rfl
  have extracted : Fails (extractCalls tree.source names tree.root) ↔ tree.Overshoots :=
    fails_map_iff.trans calls
  exact fails_map_iff.trans extracted

theorem fails_itemsOfTree_iff (names : List String) (file : String) (tree : Script.SyntaxTree) :
    Fails (itemsOfTree names file tree) ↔ tree.Overshoots :=
  fails_map_iff.trans (fails_keyedCalls_iff names tree)

section

variable {parsers : Script.Parsers} {options : ExtractOptions} {file : String} {code : List Char}

theorem untyped_of_mistaken (fallback : options.fallback = true)
    (mistaken : Script.Mistaken parsers false (endsWith file ".jsx") code) :
    untyped parsers options file code = .ok (bySearch options file code) := by
  unfold untyped
  dsimp only
  cases found : (Script.recover parsers false (endsWith file ".jsx") code).diagnostics with
  | nil => exact absurd found mistaken
  | cons first rest => simp only [fallback, if_true]

theorem untyped_of_flawless {tree : Script.SyntaxTree}
    (parsed : tree = .ofText parsers .javascript code)
    (flawless : tree.diagnostics (endsWith file ".jsx") = []) :
    untyped parsers options file code = (itemsOfTree options.names file tree).mapError .literal := by
  have recovered : Script.recover parsers false (endsWith file ".jsx") code = ⟨some tree, []⟩ := by
    unfold Script.recover Script.SyntaxTree.recover Script.Grammar.choose
    simp only [Bool.false_eq_true, if_false, ← parsed, flawless, List.any_nil]
  unfold untyped
  rw [recovered]

theorem fails_untyped_iff (fallback : options.fallback = true) :
    Fails (untyped parsers options file code) ↔
      Script.Overshoots parsers false (endsWith file ".jsx") code := by
  by_cases mistaken : Script.Mistaken parsers false (endsWith file ".jsx") code
  · rw [untyped_of_mistaken fallback mistaken]
    exact ⟨fun fails => absurd fails (not_fails_ok _), fun overshoots => absurd mistaken overshoots.1⟩
  · rw [untyped_of_flawless rfl (not_not.1 mistaken), fails_mapError_iff, fails_itemsOfTree_iff]
    exact (and_iff_right mistaken).symm

theorem typed_of_mistaken (mistaken : Script.Mistaken parsers true (endsWith file ".tsx") code) :
    typed parsers options file code = untyped parsers { options with fallback := true } file code := by
  unfold typed Script.parseSource Script.SyntaxTree.check
  cases found : (Script.SyntaxTree.ofText parsers (.choose true (endsWith file ".tsx")) code).diagnostics
      (endsWith file ".tsx") with
  | nil => exact absurd found mistaken
  | cons first rest => rfl

theorem typed_of_flawless {tree : Script.SyntaxTree}
    (parsed : tree = .ofText parsers (.choose true (endsWith file ".tsx")) code)
    (flawless : tree.diagnostics (endsWith file ".tsx") = []) :
    typed parsers options file code = (itemsOfTree options.names file tree).mapError .literal := by
  unfold typed Script.parseSource Script.SyntaxTree.check
  rw [← parsed, flawless]

theorem fails_typed_iff :
    Fails (typed parsers options file code) ↔
      Script.Overshoots parsers true (endsWith file ".tsx") code ∨
        Script.Mistaken parsers true (endsWith file ".tsx") code ∧
          Script.Overshoots parsers false (endsWith file ".jsx") code := by
  by_cases mistaken : Script.Mistaken parsers true (endsWith file ".tsx") code
  · rw [typed_of_mistaken mistaken, fails_untyped_iff rfl, and_iff_right mistaken]
    exact ⟨.inr, fun either => either.elim (fun flawless => absurd mistaken flawless.1) id⟩
  · rw [typed_of_flawless rfl (not_not.1 mistaken), fails_mapError_iff, fails_itemsOfTree_iff]
    exact ⟨fun overshoots => .inl ⟨mistaken, overshoots⟩,
      fun either => either.elim (·.2) fun retried => absurd retried.1 mistaken⟩

end

end Extraction

end Phrasebook
