import Phrasebook.Call
import Phrasebook.Proofs.Attempts
import Phrasebook.Proofs.Syntax.Node

namespace Phrasebook

open Syntax

namespace Syntax.Node

def isLiteral (node : Node) : Bool :=
  node.unwrap.kind == "string" ||
    node.unwrap.kind == "template_string" &&
      !node.unwrap.children.any (·.kind == "template_substitution")

def outcomes (node : Node) : List Node :=
  if node.unwrap.kind = "ternary_expression" then
    ["consequence", "alternative"].filterMap node.unwrap.child?
  else []

/-- The literals an expression may stand for: itself, or the literal outcomes of a choice. -/
def literals (node : Node) : List Node :=
  if node.isLiteral then [node] else node.outcomes.filter isLiteral

end Syntax.Node

section

variable {source : List UInt8}

namespace Argument

theorem ofNode_choice {node : Node} (choice : node.unwrap.kind = "ternary_expression") :
    ofNode source node =
      (node.outcomes.mapM (ofNode source)).map fun outcomes =>
        ⟨.conditional, none, none, outcomes⟩ := by
  rw [ofNode, Node.outcomes, if_pos choice]
  simp only [choice, List.filterMap_cons, List.filterMap_nil]
  cases first : node.unwrap.child? "consequence" with
  | none =>
    cases second : node.unwrap.child? "alternative" with
    | none => rfl
    | some b =>
      simp only [List.mapM_cons, List.mapM_nil]
      cases ofNode source b <;> rfl
  | some a =>
    cases second : node.unwrap.child? "alternative" with
    | none =>
      simp only [List.mapM_cons, List.mapM_nil]
      cases ofNode source a <;> rfl
    | some b =>
      simp only [List.mapM_cons, List.mapM_nil]
      cases ofNode source a with
      | error fault => rfl
      | ok first => cases ofNode source b <;> rfl

theorem kind_of_ofNode {node : Node} {argument : Argument} (h : ofNode source node = .ok argument)
    (choice : node.unwrap.kind ≠ "ternary_expression") :
    argument.kind ≠ .conditional ∧ argument.kind.isLiteral = node.isLiteral := by
  rw [ofNode] at h
  unfold Node.isLiteral
  dsimp only at h
  by_cases quoted : (node.unwrap.kind == "string") = true
  · rw [if_pos quoted] at h
    cases raw : Literal.cook (node.unwrap.innerText source) with
    | error fault =>
      rw [raw] at h
      cases h
    | ok text =>
      rw [raw] at h
      cases h
      exact ⟨nofun, by rw [quoted]; rfl⟩
  rw [if_neg quoted] at h
  rw [Bool.not_eq_true] at quoted
  by_cases template : (node.unwrap.kind == "template_string") = true
  · rw [if_pos template] at h
    rw [quoted, template]
    cases dynamic : node.unwrap.children.any (·.kind == "template_substitution") <;>
    · rw [dynamic] at h
      cases h
      exact ⟨nofun, rfl⟩
  rw [if_neg template] at h
  rw [Bool.not_eq_true] at template
  rw [quoted, template]
  by_cases object : (node.unwrap.kind == "object") = true
  · rw [if_pos object] at h
    cases h
    exact ⟨nofun, rfl⟩
  · rw [if_neg object, if_neg (by simpa using choice)] at h
    cases h
    exact ⟨nofun, rfl⟩

/-- The literals that an argument stands for, itself or as outcomes of a choice. -/
def literals (argument : Argument) : List Argument :=
  if argument.kind.isLiteral then [argument]
  else if argument.kind = .conditional then argument.branches.filter (·.kind.isLiteral)
  else []

theorem isLiteral_of_ofNode {node : Node} {argument : Argument}
    (h : ofNode source node = .ok argument) : argument.kind.isLiteral = node.isLiteral := by
  by_cases choice : node.unwrap.kind = "ternary_expression"
  · rw [ofNode_choice choice] at h
    obtain ⟨outcomes, -, rfl⟩ := map_eq_ok_iff.1 h
    simp [Node.isLiteral, choice, ArgumentKind.isLiteral]
  · exact (kind_of_ofNode h choice).2

theorem literals_of_ofNode {node : Node} {argument : Argument}
    (h : ofNode source node = .ok argument) :
    node.literals.mapM (ofNode source) = .ok argument.literals := by
  have same := isLiteral_of_ofNode h
  rw [Node.literals, literals, same]
  by_cases literal : node.isLiteral = true
  · rw [if_pos literal, if_pos literal]
    exact mapM_cons_eq_ok_iff.2 ⟨argument, [], h, rfl, rfl⟩
  · rw [if_neg literal, if_neg literal]
    by_cases choice : node.unwrap.kind = "ternary_expression"
    · rw [ofNode_choice choice] at h
      obtain ⟨outcomes, found, rfl⟩ := map_eq_ok_iff.1 h
      exact mapM_filter found fun _ _ => isLiteral_of_ofNode
    · rw [if_neg (kind_of_ofNode h choice).1, Node.outcomes, if_neg choice]
      rfl

end Argument

inductive Names (source : List UInt8) (callee : Node) (name : String) : Prop
  | identifier (kind : callee.kind = "identifier") (text : callee.textString source = name)
  | member {property : Node} (kind : callee.kind = "member_expression")
      (found : callee.child? "property" = some property)
      (plain : property.kind = "property_identifier") (text : property.textString source = name)

/-- A call by that name of something, with those expressions in its list of arguments. -/
structure IsCall (source : List UInt8) (node : Node) (name : String) (operands : List Node) :
    Prop where
  kind : node.kind = "call_expression"
  callee : ∃ callee, node.child? "function" = some callee ∧ Names source callee.unwrap name
  arguments : ∃ list, node.child? "arguments" = some list ∧ list.kind = "arguments" ∧
    list.operands = operands

theorem names_iff {callee : Node} {name : String} :
    Names source callee.unwrap name ↔ ∃ kind, calleeOf source callee = some (kind, name) := by
  unfold calleeOf
  dsimp only
  constructor
  · rintro (⟨kind, rfl⟩ | ⟨kind, found, plain, rfl⟩)
    · exact ⟨_, by rw [kind]; rfl⟩
    · exact ⟨_, by rw [kind, found]; simp [plain]; rfl⟩
  · rintro ⟨calleeKind, found⟩
    split at found
    · rename_i kind
      cases found
      exact .identifier (by simpa using kind) rfl
    · split at found
      · rename_i kind
        split at found
        · rename_i property child
          split at found
          · rename_i plain
            cases found
            exact .member (by simpa using kind) child (by simpa using plain) rfl
          · cases found
        · cases found
      · cases found

namespace CallSite

theorem ofNode_of_isCall {node : Node} {name : String} {operands : List Node}
    (call : IsCall source node name operands) :
    ∃ kind, ofNode source node =
      (operands.mapM (Argument.ofNode source)).map fun arguments =>
        some ⟨kind, name, arguments, node.start⟩ := by
  obtain ⟨callee, found, named⟩ := call.callee
  obtain ⟨list, given, plain, rfl⟩ := call.arguments
  obtain ⟨kind, calls⟩ := names_iff.1 named
  refine ⟨kind, ?_⟩
  unfold ofNode
  rw [found, given]
  simp only [call.kind, plain, calls]
  rfl

theorem ofNode_of_not_isCall {node : Node}
    (none' : ∀ name operands, ¬IsCall source node name operands) : ofNode source node = .ok none := by
  unfold ofNode
  split
  · rfl
  rename_i kind
  split
  · rename_i callee list found given
    split
    · rfl
    rename_i plain
    split
    · rfl
    · rename_i calleeKind name calls
      exact absurd ⟨by simpa using kind, ⟨callee, found, names_iff.2 ⟨calleeKind, calls⟩⟩,
        ⟨list, given, by simpa using plain, rfl⟩⟩ (none' name list.operands)
  · rfl

theorem offset_of_ofNode {node : Node} {site : CallSite} (h : ofNode source node = .ok (some site)) :
    site.offset = node.start := by
  by_cases call : ∃ name operands, IsCall source node name operands
  · obtain ⟨name, operands, call⟩ := call
    obtain ⟨kind, found⟩ := ofNode_of_isCall call
    rw [found] at h
    obtain ⟨arguments, -, made⟩ := map_eq_ok_iff.1 h
    cases made
    rfl
  · rw [ofNode_of_not_isCall fun name operands made => call ⟨name, operands, made⟩] at h
    cases h

theorem classify_eq (site : CallSite) (names : List String) :
    site.classify names =
      (if site.name ∈ names then site.arguments.head?.toList.flatMap Argument.literals else []).map
        (· :: site.arguments.tail) := by
  unfold classify
  cases site.arguments with
  | nil => simp
  | cons first rest =>
    by_cases member : site.name ∈ names
    · simp only [List.contains_iff_mem.2 member, if_pos member, List.head?_cons, Option.toList_some,
        List.flatMap_singleton, List.tail_cons, Argument.literals, beq_iff_eq, Bool.not_true,
        Bool.false_eq_true, if_false]
      split
      · rfl
      · split <;> rfl
    · simp [member]

theorem calls_of_subset {names chosen : List String} (subset : chosen ⊆ names) (site : CallSite) :
    site.calls source chosen = (site.calls source names).filter (·.name ∈ chosen) := by
  unfold calls
  rw [classify_eq, classify_eq, List.map_map, List.map_map, List.filter_map]
  by_cases member : site.name ∈ chosen
  · rw [if_pos member, if_pos (subset member), List.filter_eq_self.2]
    simp [member]
  · rw [if_neg member, List.filter_eq_nil_iff.2]
    simp [member]

end CallSite

variable (source) (names : List String)

/-- The calls that a node by itself contributes. -/
def callsAt (node : Node) : Except Literal.Fault (List Call) :=
  (CallSite.ofNode source node).map fun site? => site?.toList.flatMap (CallSite.calls source names)

mutual

/-- The calls of a node, then those of each of its children in order. -/
def callsOf : Node → Except Literal.Fault (List Call)
  | ⟨kind, start, stop, named, missing, hasError, field, children⟩ => do
    let own ← callsAt source names ⟨kind, start, stop, named, missing, hasError, field, children⟩
    return own ++ (← callsOfAll children)

def callsOfAll : List Node → Except Literal.Fault (List Call)
  | [] => .ok []
  | node :: rest => do
    let first ← callsOf node
    return first ++ (← callsOfAll rest)

end

theorem extractCalls_eq (root : Node) :
    extractCalls source names root =
      (root.preorder.mapM (callsAt source names)).map List.flatten := by
  unfold extractCalls callSites callsAt
  rw [Node.visit_singleton, mapM_map]
  cases root.preorder.mapM (CallSite.ofNode source) with
  | error fault => rfl
  | ok sites =>
    simp only [Except.map, bind, Except.bind, pure, Except.pure, Except.ok.injEq]
    induction sites with
    | nil => rfl
    | cons site? sites ih =>
      cases site? with
      | none => simpa using ih
      | some site => simpa using ih

mutual

theorem callsOf_eq : ∀ node : Node,
    callsOf source names node = (node.preorder.mapM (callsAt source names)).map List.flatten
  | ⟨kind, start, stop, named, missing, hasError, field, children⟩ => by
    rw [callsOf, Node.preorder, List.mapM_cons, callsOfAll_eq children]
    cases callsAt source names ⟨kind, start, stop, named, missing, hasError, field, children⟩ with
    | error fault => rfl
    | ok own => cases (Node.preorderAll children).mapM (callsAt source names) <;> rfl

theorem callsOfAll_eq : ∀ nodes : List Node,
    callsOfAll source names nodes =
      ((Node.preorderAll nodes).mapM (callsAt source names)).map List.flatten
  | [] => rfl
  | node :: rest => by
    rw [callsOfAll, Node.preorderAll, List.mapM_append, callsOf_eq node, callsOfAll_eq rest]
    cases node.preorder.mapM (callsAt source names) with
    | error fault => rfl
    | ok first =>
      cases (Node.preorderAll rest).mapM (callsAt source names) with
      | error fault => rfl
      | ok others => simp [Except.map, bind, Except.bind, pure, Except.pure]

end

variable {names}

theorem callsAt_of_isCall {node : Node} {name : String} {operands : List Node}
    (call : IsCall source node name operands) :
    callsAt source names node = do
      let arguments ← operands.mapM (Argument.ofNode source)
      let keys ← (if name ∈ names then operands.head?.toList.flatMap Node.literals else []).mapM
        (Argument.ofNode source)
      return keys.map fun key =>
        ⟨name, key :: arguments.tail, Text.Position.ofOffset source node.start, node.start⟩ := by
  obtain ⟨kind, found⟩ := CallSite.ofNode_of_isCall call
  unfold callsAt
  rw [found]
  cases given : operands.mapM (Argument.ofNode source) with
  | error fault => rfl
  | ok arguments =>
    have keys : (if name ∈ names then operands.head?.toList.flatMap Node.literals else []).mapM
        (Argument.ofNode source) =
        .ok (if name ∈ names then arguments.head?.toList.flatMap Argument.literals else []) := by
      split
      · cases operands with
        | nil =>
          cases given
          rfl
        | cons first others =>
          obtain ⟨argument, rest, tagged, -, rfl⟩ := mapM_cons_eq_ok_iff.1 given
          simpa using Argument.literals_of_ofNode tagged
      · rfl
    simp [keys, Except.map, bind, Except.bind, pure, Except.pure, CallSite.calls,
      CallSite.classify_eq, Function.comp_def]

theorem offset_of_mem_callsAt {node : Node} {calls : List Call}
    (h : callsAt source names node = .ok calls) : ∀ call ∈ calls, call.offset = node.start := by
  obtain ⟨site?, found, rfl⟩ := map_eq_ok_iff.1 h
  cases site? with
  | none => nofun
  | some site =>
    simp only [Option.toList_some, List.flatMap_singleton, CallSite.calls, List.forall_mem_map]
    exact fun _ _ => CallSite.offset_of_ofNode found

theorem offsets_ordered {nodes : List Node} (ordered : nodes.Pairwise fun a b => a.start ≤ b.start)
    {results : List (List Call)} (h : nodes.mapM (callsAt source names) = .ok results) :
    results.flatten.Pairwise fun a b => a.offset ≤ b.offset := by
  induction nodes generalizing results with
  | nil =>
    cases h
    exact .nil
  | cons node nodes ih =>
    obtain ⟨first, rest, here, others, rfl⟩ := mapM_cons_eq_ok_iff.1 h
    have mine := offset_of_mem_callsAt source here
    rw [List.pairwise_cons] at ordered
    rw [List.flatten_cons, List.pairwise_append]
    refine ⟨?_, ih ordered.2 others, fun call member later after => ?_⟩
    · exact List.pairwise_of_forall_mem_list fun a member b member' =>
        Nat.le_of_eq ((mine a member).trans (mine b member').symm)
    · obtain ⟨calls, inside, after⟩ := List.mem_flatten.1 after
      obtain ⟨node', member', found⟩ := (mem_mapM_iff others).1 inside
      rw [mine call member, offset_of_mem_callsAt source found later after]
      exact ordered.1 node' member'

/-- The calls found in a tree are those of its nodes, parents before children and children in order. A
    node that is not a call by some name has none; one that is has a call for every literal that its
    first argument stands for, provided the name is looked for. Looking for fewer names finds those of
    the calls that go by them, and where the nodes' bytes are nested the calls come in source order. -/
theorem extractCalls_recursive (names : List String) (root : Node) :
    extractCalls source names root = callsOf source names root ∧
    (∀ node, (∀ name operands, ¬IsCall source node name operands) →
      callsAt source names node = .ok []) ∧
    (∀ node name operands, IsCall source node name operands →
      callsAt source names node = do
        let arguments ← operands.mapM (Argument.ofNode source)
        let keys ← (if name ∈ names then operands.head?.toList.flatMap Node.literals else []).mapM
          (Argument.ofNode source)
        return keys.map fun key =>
          ⟨name, key :: arguments.tail, Text.Position.ofOffset source node.start, node.start⟩) ∧
    (∀ chosen, chosen ⊆ names → extractCalls source chosen root =
      (extractCalls source names root).map (List.filter (·.name ∈ chosen))) ∧
    (root.Nested → ∀ calls, extractCalls source names root = .ok calls →
      (calls.map (·.offset)).Pairwise (· ≤ ·)) := by
  refine ⟨?_, ?_, ?_, ?_, ?_⟩
  · rw [extractCalls_eq, callsOf_eq]
  · intro node none'
    unfold callsAt
    rw [CallSite.ofNode_of_not_isCall none']
    rfl
  · exact fun node name operands => callsAt_of_isCall source
  · intro chosen subset
    unfold extractCalls
    cases callSites source root with
    | error fault => rfl
    | ok sites =>
      simp only [Except.map, bind, Except.bind, pure, Except.pure, Except.ok.injEq,
        List.filter_flatMap]
      congr 1
      exact funext (CallSite.calls_of_subset subset)
  · intro nested calls found
    rw [extractCalls_eq] at found
    obtain ⟨results, each, rfl⟩ := map_eq_ok_iff.1 found
    rw [List.pairwise_map]
    exact offsets_ordered source nested.starts_ordered each

end

def Syntax.Node.stringCall (start paren stop : Nat) : Node :=
  let operands := branch "arguments" paren
    [leaf "(" false paren (paren + 1), leaf "string" true (paren + 1) (stop - 1),
      leaf ")" false (stop - 1) stop]
  branch "call_expression" start
    [{ leaf "identifier" true start paren with field := "function" }, { operands with field := "arguments" }]

/-- A script with a statement for each of some expressions. -/
def Syntax.Node.script (expressions : List Node) : Node :=
  branch "program" 0 (expressions.map fun expression => branch "expression_statement" 0 [expression])

namespace Choice

def source : List UInt8 := Text.encode "t(k ? 'a' : 'b')".toList

def callee : Node := { Node.leaf "identifier" true 0 1 with field := "function" }

def choice : Node :=
  Node.branch "ternary_expression" 2
    [{ Node.leaf "identifier" true 2 3 with field := "condition" }, Node.leaf "?" false 4 5,
      { Node.leaf "string" true 6 9 with field := "consequence" }, Node.leaf ":" false 10 11,
      { Node.leaf "string" true 12 15 with field := "alternative" }]

def arguments : Node :=
  { Node.branch "arguments" 1 [Node.leaf "(" false 1 2, choice, Node.leaf ")" false 15 16] with
    field := "arguments" }

def root : Node := Node.branch "call_expression" 0 [callee, arguments]

theorem choice_nested : choice.Nested := by
  refine .intro (by decide) (by decide) (by decide) ?_
  simp only [choice, Node.branch, List.forall_mem_cons]
  exact ⟨.leaf (by decide) rfl, .leaf (by decide) rfl, .leaf (by decide) rfl,
    .leaf (by decide) rfl, .leaf (by decide) rfl, nofun⟩

theorem root_nested : root.Nested := by
  have inner : arguments.Nested := by
    refine .intro (by decide) (by decide) (by decide) ?_
    simp only [arguments, Node.branch, List.forall_mem_cons]
    exact ⟨.leaf (by decide) rfl, choice_nested, .leaf (by decide) rfl, nofun⟩
  refine .intro (by decide) (by decide) (by decide) ?_
  simp only [root, Node.branch, List.forall_mem_cons]
  exact ⟨.leaf (by decide) rfl, inner, nofun⟩

end Choice

theorem extractCalls_recursive_choice :
    callsAt Choice.source ["t"] Choice.callee = .ok [] ∧
    (callsAt Choice.source ["t"] Choice.root = do
      let arguments ← [Choice.choice].mapM (Argument.ofNode Choice.source)
      let keys ← (if "t" ∈ ["t"] then [Choice.choice].head?.toList.flatMap Node.literals else []).mapM
        (Argument.ofNode Choice.source)
      return keys.map fun key =>
        ⟨"t", key :: arguments.tail, Text.Position.ofOffset Choice.source 0, 0⟩) ∧
    extractCalls Choice.source [] Choice.root =
      (extractCalls Choice.source ["t"] Choice.root).map (List.filter (·.name ∈ ([] : List String))) ∧
    ∃ calls, extractCalls Choice.source ["t"] Choice.root = .ok calls ∧
      calls.map Call.key = ["a", "b"].map Wording.ofString ∧ (calls.map (·.offset)).Pairwise (· ≤ ·) := by
  obtain ⟨-, silent, calling, fewer, ordered⟩ :=
    extractCalls_recursive Choice.source ["t"] Choice.root
  refine ⟨silent _ fun name operands call => absurd call.kind (by decide), calling _ _ _ ?_,
    fewer [] (List.nil_subset _), ?_⟩
  · exact ⟨rfl, ⟨_, rfl, .identifier (by decide +kernel) (by decide +kernel)⟩, ⟨_, rfl, rfl, rfl⟩⟩
  · have keys : ((extractCalls Choice.source ["t"] Choice.root).map (List.map Call.key)).toOption =
        some (["a", "b"].map Wording.ofString) := by decide +kernel
    cases found : extractCalls Choice.source ["t"] Choice.root with
    | error fault =>
      rw [found] at keys
      cases keys
    | ok calls =>
      rw [found] at keys
      exact ⟨calls, rfl, Option.some.inj keys, ordered Choice.root_nested calls found⟩

end Phrasebook
