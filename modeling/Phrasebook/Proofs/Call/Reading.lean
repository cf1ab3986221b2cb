import Mathlib.Logic.Basic
import Phrasebook.Proofs.Call

namespace Phrasebook

open Syntax

namespace Syntax.Node

theorem unwrap_of_operand {node inner : Node} (kind : node.kind = "parenthesized_expression")
    (sole : node.operands = [inner]) : node.unwrap = inner.unwrap := by
  rw [unwrap, if_pos (by simpa using kind)]
  split
  · rename_i inner' found
    rw [sole] at found
    cases found
    rfl
  · rename_i none'
    exact absurd sole (none' inner)

theorem unwrap_of_operands {node : Node} (several : ∀ inner, node.operands ≠ [inner]) :
    node.unwrap = node := by
  rw [unwrap]
  split
  · split
    · rename_i inner found
      exact absurd found (several inner)
    · rfl
  · rfl

theorem unwrap_of_kind {node : Node} (kind : node.kind ≠ "parenthesized_expression") : node.unwrap = node := by
  rw [unwrap, if_neg (by simpa using kind)]

end Syntax.Node

theorem Argument.ofNode_eq (source : List UInt8) (node : Node) :
    ofNode source node =
      if node.unwrap.kind = "string" then
        (Literal.cook (node.unwrap.innerText source)).map (literal .string)
      else if node.unwrap.kind = "template_string" then
        .ok (if node.unwrap.children.any (·.kind == "template_substitution") then plain .dynamicTemplate
          else literal .template (.ofChars (node.unwrap.innerText source)))
      else if node.unwrap.kind = "object" then
        .ok ⟨.object, none, declaredValues source node.unwrap, []⟩
      else if node.unwrap.kind = "ternary_expression" then
        (node.outcomes.mapM (ofNode source)).map fun outcomes => ⟨.conditional, none, none, outcomes⟩
      else .ok (plain .other) := by
  by_cases choice : node.unwrap.kind = "ternary_expression"
  · rw [ofNode_choice choice]
    simp [choice]
  · rw [ofNode]
    simp only [beq_iff_eq, choice, if_false]
    split
    · cases Literal.cook (node.unwrap.innerText source) <;> rfl
    · split
      · split <;> rfl
      · rfl

def memberName? (source : List UInt8) (member : Node) : Option String :=
  if member.kind == "shorthand_property_identifier" then some (member.textString source)
  else if member.kind == "pair" then
    match member.child? "key" with
    | some key =>
      if key.kind == "property_identifier" then some (key.textString source) else none
    | none => none
  else none

def objectNames? (source : List UInt8) (node : Node) : Option (List String) :=
  if node.unwrap.kind = "object" then some (objectParams source node.unwrap) else none

theorem valuesParams?_eq (source : List UInt8) (member : Node) :
    valuesParams? source member =
      if member.kind = "pair" then do
        let key ← member.child? "key"
        let value ← member.child? "value"
        if key.kind = "property_identifier" ∧ key.textIs source "values" then objectNames? source value
        else none
      else none := by
  unfold valuesParams? objectNames?
  by_cases pair : member.kind = "pair"
  · cases member.child? "key" with
    | none => simp [pair]
    | some key => cases member.child? "value" <;> simp [pair, ite_and]
  · simp [pair]

section

variable {source : List UInt8} {names : List String}

theorem callsOf_children (node : Node) :
    callsOf source names node = do
      let own ← callsAt source names node
      return own ++ (← callsOfAll source names node.children) := by
  cases node
  rw [callsOf]

theorem callsAt_eq_nil {node : Node} (quiet : ∀ name operands, ¬IsCall source node name operands) :
    callsAt source names node = .ok [] := by
  rw [callsAt, CallSite.ofNode_of_not_isCall quiet]
  rfl

theorem callsOf_leaf {node : Node} (leaf : node.children = []) :
    callsOf source names node = .ok [] := by
  have quiet : ∀ name operands, ¬IsCall source node name operands := by
    rintro name operands ⟨-, ⟨callee, found, -⟩, -⟩
    rw [Node.child?, leaf] at found
    cases found
  rw [callsOf_children, callsAt_eq_nil quiet, leaf]
  rfl

theorem callsOfAll_cons (node : Node) (nodes : List Node) :
    callsOfAll source names (node :: nodes) = do
      let first ← callsOf source names node
      return first ++ (← callsOfAll source names nodes) := by
  rw [callsOfAll]

theorem callsOfAll_append (front back : List Node) :
    callsOfAll source names (front ++ back) = do
      let first ← callsOfAll source names front
      return first ++ (← callsOfAll source names back) := by
  induction front with
  | nil =>
    rw [List.nil_append, callsOfAll]
    cases callsOfAll source names back <;> rfl
  | cons node front ih =>
    rw [List.cons_append, callsOfAll_cons, callsOfAll_cons, ih]
    cases callsOf source names node with
    | error fault => rfl
    | ok own =>
      cases callsOfAll source names front with
      | error fault => rfl
      | ok first =>
        cases callsOfAll source names back with
        | error fault => rfl
        | ok rest => simp [bind, Except.bind, pure, Except.pure]

theorem callsOfAll_leaves {nodes : List Node} (leaves : ∀ node ∈ nodes, node.children = []) :
    callsOfAll source names nodes = .ok [] := by
  induction nodes with
  | nil => rfl
  | cons node nodes ih =>
    rw [List.forall_mem_cons] at leaves
    rw [callsOfAll_cons, callsOf_leaf leaves.1, ih leaves.2]
    rfl

theorem callsOfAll_between {front back : List Node} (node : Node)
    (before : ∀ leaf ∈ front, leaf.children = []) (behind : ∀ leaf ∈ back, leaf.children = []) :
    callsOfAll source names (front ++ node :: back) = callsOf source names node := by
  rw [callsOfAll_append, callsOfAll_cons, callsOfAll_leaves before, callsOfAll_leaves behind]
  cases callsOf source names node with
  | error fault => rfl
  | ok calls => simp [bind, Except.bind, pure, Except.pure]

end

end Phrasebook
