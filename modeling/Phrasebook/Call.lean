import Phrasebook.Item
import Phrasebook.Literal
import Phrasebook.Syntax.Node
import Phrasebook.Text.Position

namespace Phrasebook

open Syntax

inductive ArgumentKind where
  | string
  | template
  | dynamicTemplate
  | object
  | conditional
  | other
  deriving DecidableEq, Repr

namespace ArgumentKind

def isLiteral (kind : ArgumentKind) : Bool := kind == string || kind == template

end ArgumentKind

/-- What is known of an argument: the text of a literal, the names in the `values` of an object, and
    the two outcomes of a choice. -/
structure Argument where
  kind : ArgumentKind
  value : Option Wording
  params : Option (List String)
  branches : List Argument

instance : Inhabited Argument := ⟨⟨.other, none, none, []⟩⟩

inductive CalleeKind where
  | identifier
  | member
  deriving DecidableEq, Repr

structure CallSite where
  calleeKind : CalleeKind
  name : String
  arguments : List Argument
  offset : Nat

structure Call where
  name : String
  arguments : List Argument
  position : Text.Position
  offset : Nat

namespace Syntax.Node

def operands (node : Node) : List Node :=
  node.namedChildren.filter fun child => !child.isComment

theorem mem_children_of_mem_operands {node child : Node} (h : child ∈ node.operands) :
    child ∈ node.children := by
  simp only [operands, namedChildren, List.mem_filter] at h
  exact h.1.1

theorem mem_children_of_child? {node child : Node} {role : String}
    (h : node.child? role = some child) : child ∈ node.children :=
  List.mem_of_find?_eq_some h

def unwrap (node : Node) : Node :=
  if node.kind == "parenthesized_expression" then
    match _h : node.operands with
    | [inner] => inner.unwrap
    | _ => node
  else node
termination_by sizeOf node
decreasing_by exact sizeOf_lt_of_mem (mem_children_of_mem_operands (by simp [_h]))

theorem sizeOf_unwrap_le (node : Node) : sizeOf node.unwrap ≤ sizeOf node := by
  induction node using unwrap.induct with
  | case1 node hk inner h ih =>
    rw [unwrap, if_pos hk]
    split
    · rename_i inner' h'
      rw [h] at h'
      cases h'
      exact Nat.le_of_lt (Nat.lt_of_le_of_lt ih
        (sizeOf_lt_of_mem (mem_children_of_mem_operands (by simp [h]))))
    · exact Nat.le_refl _
  | case2 node hk h =>
    rw [unwrap, if_pos hk]
    split
    · rename_i inner' h'
      exact absurd h' (h inner')
    · exact Nat.le_refl _
  | case3 node hk => exact Nat.le_of_eq (by rw [unwrap, if_neg hk])

def innerText (source : List UInt8) (node : Node) : List Char :=
  ((node.text source).drop 1).dropLast

def textIs (source : List UInt8) (node : Node) (text : String) : Bool :=
  node.text source == text.toList

def textString (source : List UInt8) (node : Node) : String := String.ofList (node.text source)

end Syntax.Node

def objectParams (source : List UInt8) (object : Node) : List String :=
  object.namedChildren.filterMap fun child =>
    if child.kind == "shorthand_property_identifier" then some (child.textString source)
    else if child.kind == "pair" then
      match child.child? "key" with
      | some key =>
        if key.kind == "property_identifier" then some (key.textString source) else none
      | none => none
    else none

def valuesParams? (source : List UInt8) (member : Node) : Option (List String) :=
  if member.kind != "pair" then none
  else
    match member.child? "key", member.child? "value" with
    | some key, some value =>
      if key.kind == "property_identifier" && key.textIs source "values" &&
          value.unwrap.kind == "object" then
        some (objectParams source value.unwrap)
      else none
    | _, _ => none

def declaredValues (source : List UInt8) (object : Node) : Option (List String) :=
  (object.namedChildren.filterMap (valuesParams? source)).getLast?

namespace Argument

def plain (kind : ArgumentKind) : Argument := ⟨kind, none, none, []⟩

def literal (kind : ArgumentKind) (text : Wording) : Argument := ⟨kind, some text, none, []⟩

/-- What an expression tells as an argument. Only an escape without a character makes this fail. -/
def ofNode (source : List UInt8) (node : Node) : Except Literal.Fault Argument :=
  let bare := node.unwrap
  if bare.kind == "string" then do
    return literal .string (← Literal.cook (bare.innerText source))
  else if bare.kind == "template_string" then
    if bare.children.any (·.kind == "template_substitution") then .ok (plain .dynamicTemplate)
    else .ok (literal .template (.ofChars (bare.innerText source)))
  else if bare.kind == "object" then
    .ok ⟨.object, none, declaredValues source bare, []⟩
  else if bare.kind == "ternary_expression" then do
    let first ← match _h : bare.child? "consequence" with
      | some branch => do pure [← ofNode source branch]
      | none => pure []
    let second ← match _h : bare.child? "alternative" with
      | some branch => do pure [← ofNode source branch]
      | none => pure []
    return ⟨.conditional, none, none, first ++ second⟩
  else .ok (plain .other)
termination_by sizeOf node
decreasing_by
  all_goals
    exact Nat.lt_of_lt_of_le
      (Node.sizeOf_lt_of_mem (Node.mem_children_of_child? _h)) node.sizeOf_unwrap_le

end Argument

def calleeOf (source : List UInt8) (callee : Node) : Option (CalleeKind × String) :=
  let bare := callee.unwrap
  if bare.kind == "identifier" then some (.identifier, bare.textString source)
  else if bare.kind == "member_expression" then
    match bare.child? "property" with
    | some property =>
      if property.kind == "property_identifier" then
        some (.member, property.textString source)
      else none
    | none => none
  else none

def CallSite.ofNode (source : List UInt8) (node : Node) :
    Except Literal.Fault (Option CallSite) :=
  if node.kind != "call_expression" then .ok none
  else
    match node.child? "function", node.child? "arguments" with
    | some callee, some args =>
      if args.kind != "arguments" then .ok none
      else
        match calleeOf source callee with
        | none => .ok none
        | some (calleeKind, name) => do
          let arguments ← args.operands.mapM (Argument.ofNode source)
          return some ⟨calleeKind, name, arguments, node.start⟩
    | _, _ => .ok none

def callSites (source : List UInt8) (root : Node) : Except Literal.Fault (List CallSite) := do
  return (← (Node.visit [root]).mapM (CallSite.ofNode source)).filterMap id

/-- The argument lists of the translations a call asks for: one for a literal key, one for each
    literal outcome of a choice, none otherwise. -/
def CallSite.classify (site : CallSite) (names : List String) : List (List Argument) :=
  match site.arguments with
  | [] => []
  | first :: rest =>
    if !names.contains site.name then []
    else if first.kind.isLiteral then [first :: rest]
    else if first.kind == .conditional then
      (first.branches.filter (·.kind.isLiteral)).map (· :: rest)
    else []

def CallSite.calls (source : List UInt8) (names : List String) (site : CallSite) : List Call :=
  (site.classify names).map fun arguments =>
    ⟨site.name, arguments, Text.Position.ofOffset source site.offset, site.offset⟩

def extractCalls (source : List UInt8) (names : List String) (root : Node) :
    Except Literal.Fault (List Call) := do
  return (← callSites source root).flatMap (CallSite.calls source names)

namespace Call

def key (call : Call) : Wording := (call.arguments.head?.bind (·.value)).getD []

def declaredParams (call : Call) : Option (List String) :=
  match call.arguments with
  | _ :: second :: _ => if second.kind == .object then second.params else none
  | _ => none

def toItem (call : Call) (file : String) (line column : Int) : Item :=
  Item.create call.key file line column (call.declaredParams.map (List.map Wording.ofString))

end Call

def soleExpression (root : Node) : Option Node :=
  match root.operands with
  | [statement] =>
    if statement.kind == "expression_statement" then statement.operands.head? else none
  | _ => none

def literalExpression (source : List UInt8) (root : Node) :
    Except Literal.Fault (Option Argument) :=
  match soleExpression root with
  | some node => some <$> Argument.ofNode source node
  | none => .ok none

end Phrasebook
