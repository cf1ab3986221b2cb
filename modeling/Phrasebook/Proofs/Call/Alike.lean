import Mathlib.Data.List.Forall2
import Phrasebook.Proofs.Call.Reading

namespace Phrasebook

open Syntax

section Pairs

variable {α β : Type} {R : α → α → Prop} {items others : List α}

theorem mapM_eq_of_forall₂ {ε : Type} {f : α → Except ε β} (related : List.Forall₂ R items others)
    (same : ∀ a b, R a b → f b = f a) : others.mapM f = items.mapM f := by
  induction related with
  | nil => rfl
  | cons first _ ih => rw [List.mapM_cons, List.mapM_cons, same _ _ first, ih]

theorem filterMap_eq_of_forall₂ {f : α → Option β} (related : List.Forall₂ R items others)
    (same : ∀ a b, R a b → f b = f a) : others.filterMap f = items.filterMap f := by
  induction related with
  | nil => rfl
  | cons first _ ih => rw [List.filterMap_cons, List.filterMap_cons, same _ _ first, ih]

theorem any_eq_of_forall₂ {p : α → Bool} (related : List.Forall₂ R items others)
    (same : ∀ a b, R a b → p b = p a) : others.any p = items.any p := by
  induction related with
  | nil => rfl
  | cons first _ ih => rw [List.any_cons, List.any_cons, same _ _ first, ih]

theorem forall₂_filter {p : α → Bool} (related : List.Forall₂ R items others)
    (same : ∀ a b, R a b → p b = p a) : List.Forall₂ R (items.filter p) (others.filter p) :=
  List.rel_filter (fun a b pair => iff_of_eq (congrArg (· = true) (same a b pair).symm)) related

theorem forall₂_replace {front back : List α} {a b : α} (refl : ∀ a, R a a) (pair : R a b) :
    List.Forall₂ R (front ++ a :: back) (front ++ b :: back) :=
  List.rel_append (List.forall₂_same.2 fun c _ => refl c)
    (.cons pair (List.forall₂_same.2 fun c _ => refl c))

end Pairs

namespace Syntax.Node

/-- Where a call reads an expression: what is called, an argument, an outcome of a choice, or the value
    of a member. -/
inductive Place (parent child : Node) : Prop
  | callee (kind : parent.kind = "call_expression") (role : child.field = "function")
  | argument (kind : parent.kind = "arguments")
  | outcome (kind : parent.kind = "ternary_expression")
      (role : child.field = "consequence" ∨ child.field = "alternative")
  | value (kind : parent.kind = "pair") (role : child.field = "value")

theorem Place.kind_mem {parent child : Node} (place : Place parent child) :
    parent.kind ∈ ["call_expression", "arguments", "ternary_expression", "pair"] := by
  cases place <;> simp [*]

theorem Place.role_mem {parent child : Node} (place : Place parent child)
    (list : parent.kind ≠ "arguments") :
    child.field ∈ ["function", "consequence", "alternative", "value"] := by
  cases place with
  | callee kind role => simp [role]
  | argument kind => exact absurd kind list
  | outcome kind role => rcases role with role | role <;> simp [role]
  | value kind role => simp [role]

end Syntax.Node

section

variable (source : List UInt8) (names : List String)

structure Alike (node other : Node) : Prop where
  argument : Argument.ofNode source other = Argument.ofNode source node
  callee : calleeOf source other = calleeOf source node
  object : objectNames? source other = objectNames? source node
  calls : callsOf source names other = callsOf source names node

variable {source names}

theorem Alike.of_unwrap {inner inner' node other : Node} (alike : Alike source names inner inner')
    (mine : node.unwrap = inner.unwrap) (theirs : other.unwrap = inner'.unwrap)
    (calls : callsOf source names other = callsOf source names node) : Alike source names node other := by
  obtain ⟨argument, callee, object, -⟩ := alike
  rw [Argument.ofNode_eq, Argument.ofNode_eq source inner, Node.outcomes, Node.outcomes] at argument
  refine ⟨?_, ?_, ?_, calls⟩
  · rw [Argument.ofNode_eq, Argument.ofNode_eq source node, Node.outcomes, Node.outcomes, mine, theirs,
      argument]
  · rwa [calleeOf, calleeOf, mine, theirs]
  · rwa [objectNames?, objectNames?, mine, theirs]

variable (source names)

structure Twin (node other : Node) : Prop extends Alike source names node other where
  kind : other.kind = node.kind
  text : other.text source = node.text source
  values : valuesParams? source other = valuesParams? source node
  name : memberName? source other = memberName? source node
  arguments : other.operands.mapM (Argument.ofNode source) =
    node.operands.mapM (Argument.ofNode source)

/-- A child may have been replaced by another one, by one that is merely alike where an expression is
    read. -/
structure Replaces (parent node other : Node) : Prop where
  role : other.field = node.field
  named : other.named = node.named
  comment : other.isComment = node.isComment
  alike : Alike source names node other
  twin : Twin source names node other ∨ Node.Place parent node

variable {source names}

theorem Replaces.refl (parent node : Node) : Replaces source names parent node node :=
  have twin : Twin source names node node := ⟨⟨rfl, rfl, rfl, rfl⟩, rfl, rfl, rfl, rfl, rfl⟩
  ⟨rfl, rfl, rfl, twin.toAlike, .inl twin⟩

theorem Replaces.twin_of_kind {parent node other : Node}
    (h : Replaces source names parent node other)
    (elsewhere : parent.kind ∉ ["call_expression", "arguments", "ternary_expression", "pair"]) :
    Twin source names node other :=
  h.twin.resolve_right fun place => elsewhere place.kind_mem

theorem Replaces.twin_of_role {parent node other : Node}
    (h : Replaces source names parent node other) (list : parent.kind ≠ "arguments")
    (elsewhere : node.field ∉ ["function", "consequence", "alternative", "value"]) :
    Twin source names node other :=
  h.twin.resolve_right fun place => elsewhere (place.role_mem list)

variable (source names)

/-- One node is another with some of its children replaced. Where comments may have been added, the
    expressions inside correspond all the same. -/
structure Parallel (node other : Node) : Prop where
  kind : other.kind = node.kind
  start : other.start = node.start
  stop : other.stop = node.stop
  operands : List.Forall₂ (Replaces source names node) node.operands other.operands
  children : node.kind ≠ "parenthesized_expression" → node.kind ≠ "arguments" →
    List.Forall₂ (Replaces source names node) node.children other.children
  calls : callsOfAll source names other.children = callsOfAll source names node.children

variable {source names}

namespace Parallel

variable {node other : Node}

theorem text (parallel : Parallel source names node other) : other.text source = node.text source := by
  rw [Node.text, Node.text, Node.bytes, Node.bytes, parallel.start, parallel.stop]

theorem child? (parallel : Parallel source names node other)
    (single : node.kind ≠ "parenthesized_expression") (list : node.kind ≠ "arguments")
    (role : String) :
    node.child? role = none ∧ other.child? role = none ∨
      ∃ child child', node.child? role = some child ∧ other.child? role = some child' ∧
        child.field = role ∧ Replaces source names node child child' := by
  have related := parallel.children single list
  rw [Node.child?, Node.child?]
  generalize node.children = children, other.children = children' at related ⊢
  induction related with
  | nil => exact .inl ⟨rfl, rfl⟩
  | @cons child child' _ _ first _ ih =>
    rw [List.find?_cons, List.find?_cons, first.role]
    cases mine : child.field == role with
    | true => exact .inr ⟨child, child', rfl, rfl, by simpa using mine, first⟩
    | false => exact ih

/-- No expression is read in any other role, so what has it is the same to all that look at it. -/
theorem twin? (parallel : Parallel source names node other)
    (single : node.kind ≠ "parenthesized_expression") (list : node.kind ≠ "arguments")
    {role : String} (elsewhere : role ∉ ["function", "consequence", "alternative", "value"]) :
    node.child? role = none ∧ other.child? role = none ∨
      ∃ child child', node.child? role = some child ∧ other.child? role = some child' ∧
        Twin source names child child' := by
  rcases parallel.child? single list role with none' | ⟨child, child', found, found', mine, pair⟩
  · exact .inl none'
  · exact .inr ⟨child, child', found, found', pair.twin_of_role list (mine ▸ elsewhere)⟩

theorem namedChildren (parallel : Parallel source names node other)
    (single : node.kind ≠ "parenthesized_expression") (list : node.kind ≠ "arguments") :
    List.Forall₂ (Replaces source names node) node.namedChildren other.namedChildren :=
  forall₂_filter (parallel.children single list) fun _ _ pair => pair.named

theorem childrenIn (parallel : Parallel source names node other)
    (single : node.kind ≠ "parenthesized_expression") (list : node.kind ≠ "arguments")
    (roles : List String) : List.Forall₂ (Replaces source names node)
      (roles.filterMap node.child?) (roles.filterMap other.child?) := by
  induction roles with
  | nil => exact .nil
  | cons role roles ih =>
    rcases parallel.child? single list role with ⟨none', none''⟩ | ⟨child, child', found, found', -, pair⟩
    · rwa [List.filterMap_cons_none none', List.filterMap_cons_none none'']
    · rw [List.filterMap_cons_some found, List.filterMap_cons_some found']
      exact .cons pair ih

theorem argument (parallel : Parallel source names node other) (bare : node.unwrap = node)
    (bare' : other.unwrap = other) : Argument.ofNode source other = Argument.ofNode source node := by
  have inner : other.innerText source = node.innerText source := by
    rw [Node.innerText, Node.innerText, parallel.text]
  rw [Argument.ofNode_eq, Argument.ofNode_eq, Node.outcomes, Node.outcomes, bare, bare', parallel.kind]
  split
  · rw [inner]
  split
  · rename_i kind
    have related := parallel.children (by simp [kind]) (by simp [kind])
    have same : other.children.any (·.kind == "template_substitution") =
        node.children.any (·.kind == "template_substitution") := by
      refine any_eq_of_forall₂ related fun child child' pair => ?_
      have twin := pair.twin_of_kind (by rw [kind]; decide)
      rw [twin.kind]
    rw [same, inner]
  split
  · rename_i kind
    have related := parallel.namedChildren (by simp [kind]) (by simp [kind])
    have same : declaredValues source other = declaredValues source node := by
      refine congrArg List.getLast? (filterMap_eq_of_forall₂ related fun child child' pair => ?_)
      have twin := pair.twin_of_kind (by rw [kind]; decide)
      exact twin.values
    rw [same]
  split
  · rename_i kind
    have related := parallel.childrenIn (by simp [kind]) (by simp [kind]) ["consequence", "alternative"]
    rw [mapM_eq_of_forall₂ related fun _ _ pair => pair.alike.argument]
  · rfl

theorem callee (parallel : Parallel source names node other) (bare : node.unwrap = node)
    (bare' : other.unwrap = other) : calleeOf source other = calleeOf source node := by
  have text : other.textString source = node.textString source := by
    rw [Node.textString, Node.textString, parallel.text]
  unfold calleeOf
  rw [bare, bare']
  dsimp only
  rw [parallel.kind, text]
  split
  · rfl
  split
  · rename_i kind
    have kind : node.kind = "member_expression" := by simpa using kind
    have property : "property" ∉ ["function", "consequence", "alternative", "value"] := by decide
    rcases parallel.twin? (by simp [kind]) (by simp [kind]) property with
      ⟨none', none''⟩ | ⟨child, child', found, found', twin⟩
    · rw [none', none'']
    · simp only [found, found', twin.kind, Node.textString, twin.text]
  · rfl

theorem object (parallel : Parallel source names node other) (bare : node.unwrap = node)
    (bare' : other.unwrap = other) : objectNames? source other = objectNames? source node := by
  rw [objectNames?, objectNames?, bare, bare', parallel.kind]
  split
  · rename_i kind
    have related := parallel.namedChildren (by simp [kind]) (by simp [kind])
    have same : objectParams source other = objectParams source node := by
      refine filterMap_eq_of_forall₂ related fun child child' pair => ?_
      have twin := pair.twin_of_kind (by rw [kind]; decide)
      exact twin.name
    rw [same]
  · rfl

theorem values (parallel : Parallel source names node other) :
    valuesParams? source other = valuesParams? source node := by
  rw [valuesParams?_eq, valuesParams?_eq, parallel.kind]
  split
  · rename_i kind
    have role : "key" ∉ ["function", "consequence", "alternative", "value"] := by decide
    rcases parallel.twin? (by simp [kind]) (by simp [kind]) role with
      ⟨none', none''⟩ | ⟨key, key', found, found', twin⟩
    · rw [none', none'']
      rfl
    rcases parallel.child? (by simp [kind]) (by simp [kind]) "value" with
      ⟨none', none''⟩ | ⟨value, value', given, given', -, pair⟩
    · rw [found, found', none', none'']
      rfl
    · have mark : key'.textIs source "values" = key.textIs source "values" := by
        rw [Node.textIs, Node.textIs, twin.text]
      simp only [found, found', given, given', Option.bind_eq_bind, Option.bind_some, twin.kind, mark,
        pair.alike.object]
  · rfl

theorem name (parallel : Parallel source names node other) :
    memberName? source other = memberName? source node := by
  unfold memberName?
  rw [parallel.kind, Node.textString, Node.textString, parallel.text]
  split
  · rfl
  split
  · rename_i kind
    have kind : node.kind = "pair" := by simpa using kind
    have role : "key" ∉ ["function", "consequence", "alternative", "value"] := by decide
    rcases parallel.twin? (by simp [kind]) (by simp [kind]) role with
      ⟨none', none''⟩ | ⟨key, key', found, found', twin⟩
    · rw [none', none'']
    · simp only [found, found', twin.kind, Node.textString, twin.text]
  · rfl

theorem arguments (parallel : Parallel source names node other) :
    other.operands.mapM (Argument.ofNode source) = node.operands.mapM (Argument.ofNode source) :=
  mapM_eq_of_forall₂ parallel.operands fun _ _ pair => pair.alike.argument

theorem callSite (parallel : Parallel source names node other) :
    CallSite.ofNode source other = CallSite.ofNode source node := by
  unfold CallSite.ofNode
  rw [parallel.kind, parallel.start]
  split
  · rfl
  rename_i kind
  have kind : node.kind = "call_expression" := by simpa using kind
  rcases parallel.child? (by simp [kind]) (by simp [kind]) "function" with
    ⟨none', none''⟩ | ⟨callee, callee', found, found', -, pair⟩
  · rw [none', none'']
  have role : "arguments" ∉ ["function", "consequence", "alternative", "value"] := by decide
  rcases parallel.twin? (by simp [kind]) (by simp [kind]) role with
    ⟨none', none''⟩ | ⟨list, list', given, given', twin⟩
  · rw [found, found', none', none'']
  · simp only [found, found', given, given', twin.kind, pair.alike.callee, twin.arguments]

theorem callsOf (parallel : Parallel source names node other) :
    callsOf source names other = callsOf source names node := by
  have own : callsAt source names other = callsAt source names node := by
    rw [callsAt, callsAt, parallel.callSite]
  rw [callsOf_children, callsOf_children, own, parallel.calls]

theorem alike (parallel : Parallel source names node other) : Alike source names node other := by
  by_cases sole : node.kind = "parenthesized_expression" ∧ ∃ inner, node.operands = [inner]
  · obtain ⟨kind, inner, mine⟩ := sole
    have related := parallel.operands
    rw [mine] at related
    obtain ⟨inner', none', pair, last, theirs⟩ := List.forall₂_cons_left_iff.1 related
    rw [List.forall₂_nil_left_iff.1 last] at theirs
    have unwrapped := Node.unwrap_of_operand kind mine
    have unwrapped' := Node.unwrap_of_operand (parallel.kind.trans kind) theirs
    exact pair.alike.of_unwrap unwrapped unwrapped' parallel.callsOf
  · have bare : node.unwrap = node := by
      by_cases kind : node.kind = "parenthesized_expression"
      · exact Node.unwrap_of_operands fun inner mine => sole ⟨kind, inner, mine⟩
      · exact Node.unwrap_of_kind kind
    have bare' : other.unwrap = other := by
      by_cases kind : node.kind = "parenthesized_expression"
      · refine Node.unwrap_of_operands fun inner' theirs => ?_
        have related := parallel.operands
        rw [theirs] at related
        obtain ⟨inner, none', pair, last, mine⟩ := List.forall₂_cons_right_iff.1 related
        rw [List.forall₂_nil_right_iff.1 last] at mine
        exact sole ⟨kind, inner, mine⟩
      · exact Node.unwrap_of_kind (parallel.kind.symm ▸ kind)
    exact ⟨parallel.argument bare bare', parallel.callee bare bare', parallel.object bare bare',
      parallel.callsOf⟩

theorem twin (parallel : Parallel source names node other) : Twin source names node other :=
  ⟨parallel.alike, parallel.kind, parallel.text, parallel.values, parallel.name, parallel.arguments⟩

end Parallel

end

end Phrasebook
