import Mathlib.Logic.Relation
import Phrasebook.Proofs.Call.Alike

namespace Phrasebook

open Syntax

namespace Syntax.Node

structure IsFiller (node : Node) : Prop where
  leaf : node.children = []
  silent : node.named = false ∨ node.isComment = true

/-- Parentheses around an expression, with tokens and comments inside. They take over its role. -/
structure Encloses (parentheses node : Node) : Prop where
  kind : parentheses.kind = "parenthesized_expression"
  named : parentheses.named = true
  role : parentheses.field = node.field
  inside : ∃ front back, (∀ filler ∈ front, filler.IsFiller) ∧ (∀ filler ∈ back, filler.IsFiller) ∧
    parentheses.children = front ++ { node with field := "" } :: back

/-- One expression at such a place is put in parentheses, or one comment is added inside parentheses or
    between arguments. -/
inductive Regrouped : Node → Node → Prop
  | enclose {node child parentheses : Node} {front back : List Node}
      (children : node.children = front ++ child :: back) (place : Place node child)
      (named : child.named = true) (expression : child.isComment = false)
      (encloses : parentheses.Encloses child) :
      Regrouped node { node with children := front ++ parentheses :: back }
  | comment {node comment : Node} {front back : List Node}
      (children : node.children = front ++ back)
      (place : node.kind = "parenthesized_expression" ∨ node.kind = "arguments")
      (remark : comment.isComment = true) (leaf : comment.children = []) :
      Regrouped node { node with children := front ++ comment :: back }
  | inside {node child other : Node} {front back : List Node}
      (children : node.children = front ++ child :: back) (deeper : Regrouped child other) :
      Regrouped node { node with children := front ++ other :: back }

end Syntax.Node

section

variable {source : List UInt8} {names : List String}

theorem operands_between {node inner : Node} {front back : List Node}
    (children : node.children = front ++ inner :: back) (named : inner.named = true)
    (expression : inner.isComment = false) (before : ∀ filler ∈ front, filler.IsFiller)
    (behind : ∀ filler ∈ back, filler.IsFiller) : node.operands = [inner] := by
  have silent : ∀ {nodes : List Node}, (∀ filler ∈ nodes, filler.IsFiller) →
      (nodes.filter (·.named)).filter (!·.isComment) = [] := by
    intro nodes fillers
    rw [List.filter_filter, List.filter_eq_nil_iff]
    intro filler member
    rcases (fillers filler member).silent with token | comment <;> simp [*]
  rw [Node.operands, Node.namedChildren, children, List.filter_append, List.filter_append, silent before,
    List.filter_cons_of_pos named, List.filter_cons_of_pos (by simp [expression]), silent behind,
    List.nil_append]

theorem Alike.of_encloses {parentheses node : Node} (encloses : parentheses.Encloses node)
    (named : node.named = true) (expression : node.isComment = false) :
    Alike source names node parentheses := by
  obtain ⟨front, back, before, behind, children⟩ := encloses.inside
  -- Inside, the expression has no role of its own, which nothing that reads it looks at.
  have same : Parallel source names node { node with field := "" } :=
    ⟨rfl, rfl, rfl, List.forall₂_same.2 fun child _ => .refl node child,
      fun _ _ => List.forall₂_same.2 fun child _ => .refl node child, rfl⟩
  have sole : parentheses.operands = [{ node with field := "" }] :=
    operands_between children named expression before behind
  have quiet : ∀ name operands, ¬IsCall source parentheses name operands := by
    intro name operands call
    have kind := call.kind
    rw [encloses.kind] at kind
    exact absurd kind (by decide)
  refine same.alike.of_unwrap rfl (Node.unwrap_of_operand encloses.kind sole) ?_
  rw [callsOf_children, callsAt_eq_nil quiet, children,
    callsOfAll_between _ (fun leaf member => (before leaf member).leaf)
      fun leaf member => (behind leaf member).leaf, ← same.callsOf]
  cases callsOf source names { node with field := "" } <;> rfl

theorem Parallel.of_replaces {node child other : Node} {front back : List Node}
    (children : node.children = front ++ child :: back)
    (pair : Replaces source names node child other) :
    Parallel source names node { node with children := front ++ other :: back } := by
  have related : List.Forall₂ (Replaces source names node) node.children (front ++ other :: back) := by
    rw [children]
    exact forall₂_replace (.refl node) pair
  refine ⟨rfl, rfl, rfl, ?_, fun _ _ => related, ?_⟩
  · have shown : List.Forall₂ (Replaces source names node) node.namedChildren
        ((front ++ other :: back).filter (·.named)) :=
      forall₂_filter related fun _ _ pair => pair.named
    exact forall₂_filter shown fun _ _ pair => by rw [pair.comment]
  · rw [children, callsOfAll_append, callsOfAll_append front, callsOfAll_cons, callsOfAll_cons child,
      pair.alike.calls]

theorem Parallel.of_comment {node comment : Node} {front back : List Node}
    (children : node.children = front ++ back)
    (place : node.kind = "parenthesized_expression" ∨ node.kind = "arguments")
    (remark : comment.isComment = true) (leaf : comment.children = []) :
    Parallel source names node { node with children := front ++ comment :: back } := by
  have operands : { node with children := front ++ comment :: back }.operands = node.operands := by
    rw [Node.operands, Node.operands, Node.namedChildren, Node.namedChildren, List.filter_filter,
      List.filter_filter, children]
    simp [remark]
  refine ⟨rfl, rfl, rfl, ?_, fun single list => ?_, ?_⟩
  · rw [operands]
    exact List.forall₂_same.2 fun child _ => .refl node child
  · exact absurd place (by simp [single, list])
  · rw [children, callsOfAll_append, callsOfAll_append front, callsOfAll_cons, callsOf_leaf leaf]
    cases callsOfAll source names back <;> rfl

theorem regrouped_twin {node other : Node} (step : node.Regrouped other) :
    Twin source names node other ∧ other.field = node.field ∧ other.named = node.named := by
  induction step with
  | @enclose node child parentheses front back children place named expression encloses =>
    have apart : parentheses.isComment = false := by simp [Node.isComment, encloses.kind]
    have pair : Replaces source names node child parentheses :=
      ⟨encloses.role, encloses.named.trans named.symm, apart.trans expression.symm,
        .of_encloses encloses named expression, .inr place⟩
    exact ⟨(Parallel.of_replaces children pair).twin, rfl, rfl⟩
  | comment children place remark leaf =>
    exact ⟨(Parallel.of_comment children place remark leaf).twin, rfl, rfl⟩
  | @inside node child other front back children _ ih =>
    -- The child is a twin by induction, so it may stand anywhere, not only where an expression is read.
    obtain ⟨twin, role, named⟩ := ih
    have comment : other.isComment = child.isComment := by
      rw [Node.isComment, Node.isComment, twin.kind]
    have pair : Replaces source names node child other := ⟨role, named, comment, twin.toAlike, .inl twin⟩
    exact ⟨(Parallel.of_replaces children pair).twin, rfl, rfl⟩

/-- Parentheses around the expressions that calls read, and comments among these, change nothing about
    the calls found in a tree. -/
theorem extractCalls_of_regrouped {tree other : Node}
    (steps : Relation.ReflTransGen Node.Regrouped tree other) :
    extractCalls source names other = extractCalls source names tree := by
  induction steps with
  | refl => rfl
  | tail _ step ih =>
    rw [← ih, extractCalls_eq, ← callsOf_eq, extractCalls_eq, ← callsOf_eq]
    exact (regrouped_twin step).1.calls

end

namespace Choice

def remark (start stop : Nat) : Node := Node.leaf "comment" true start stop

def bracket (node : Node) : Node :=
  { Node.branch "parenthesized_expression" node.start
      [Node.leaf "(" false node.start node.start, remark node.start node.start, { node with field := "" },
        Node.leaf ")" false node.stop node.stop] with
    field := node.field }

theorem bracket_encloses (node : Node) : (bracket node).Encloses node := by
  refine ⟨rfl, rfl, rfl, [Node.leaf "(" false node.start node.start, remark node.start node.start],
    [Node.leaf ")" false node.stop node.stop], ?_, ?_, rfl⟩
  · simp only [List.forall_mem_cons]
    exact ⟨⟨rfl, .inl rfl⟩, ⟨rfl, .inr rfl⟩, nofun⟩
  · simp only [List.forall_mem_cons]
    exact ⟨⟨rfl, .inl rfl⟩, nofun⟩

def outcome : Node := { Node.leaf "string" true 6 9 with field := "consequence" }

def bracketed : Node :=
  { choice with
    children :=
      [{ Node.leaf "identifier" true 2 3 with field := "condition" }, Node.leaf "?" false 4 5] ++
        bracket outcome :: choice.children.drop 3 }

def bracketedArguments : Node :=
  { arguments with children := [Node.leaf "(" false 1 2] ++ bracketed :: [Node.leaf ")" false 15 16] }

def remarkedArguments : Node :=
  { bracketedArguments with
    children := [Node.leaf "(" false 1 2, bracketed] ++ remark 15 15 :: [Node.leaf ")" false 15 16] }

/-- The call with parentheses around the callee and an outcome, and a comment behind the argument. -/
def regrouped : Node := { root with children := [] ++ bracket callee :: [remarkedArguments] }

theorem regrouped_root : Relation.ReflTransGen Node.Regrouped root regrouped := by
  have first : choice.Regrouped bracketed :=
    @Node.Regrouped.enclose choice outcome (bracket outcome) _ _ rfl (.outcome rfl (.inl rfl)) rfl rfl
      (bracket_encloses outcome)
  have second : arguments.Regrouped bracketedArguments := .inside rfl first
  have third : bracketedArguments.Regrouped remarkedArguments :=
    @Node.Regrouped.comment bracketedArguments (remark 15 15) [Node.leaf "(" false 1 2, bracketed]
      [Node.leaf ")" false 15 16] rfl (.inr rfl) rfl rfl
  have inner : root.Regrouped { root with children := [callee] ++ bracketedArguments :: [] } :=
    @Node.Regrouped.inside root arguments bracketedArguments [callee] [] rfl second
  have remarked : Node.Regrouped { root with children := [callee] ++ bracketedArguments :: [] }
      { root with children := [callee] ++ remarkedArguments :: [] } :=
    @Node.Regrouped.inside { root with children := [callee] ++ bracketedArguments :: [] } _ _ [callee] []
      rfl third
  have outer : Node.Regrouped { root with children := [callee] ++ remarkedArguments :: [] } regrouped :=
    @Node.Regrouped.enclose { root with children := [callee] ++ remarkedArguments :: [] } callee
      (bracket callee) [] [remarkedArguments] rfl (.callee rfl rfl) rfl rfl (bracket_encloses callee)
  exact .tail (.tail (.single inner) remarked) outer

end Choice

theorem extractCalls_of_regrouped_choice :
    Relation.ReflTransGen Node.Regrouped Choice.root Choice.regrouped ∧
      extractCalls Choice.source ["t"] Choice.regrouped =
        extractCalls Choice.source ["t"] Choice.root ∧
      ((extractCalls Choice.source ["t"] Choice.regrouped).map (List.map Call.key)).toOption =
        some (["a", "b"].map Wording.ofString) := by
  have same : extractCalls Choice.source ["t"] Choice.regrouped =
      extractCalls Choice.source ["t"] Choice.root := extractCalls_of_regrouped Choice.regrouped_root
  refine ⟨Choice.regrouped_root, same, ?_⟩
  rw [same]
  decide +kernel

end Phrasebook
