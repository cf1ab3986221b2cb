import Phrasebook.Syntax.Node

namespace Phrasebook.Syntax.Node

theorem preorder_eq (node : Node) : node.preorder = node :: preorderAll node.children := by
  cases node
  rw [preorder]

theorem preorderAll_eq_flatMap (nodes : List Node) : preorderAll nodes = nodes.flatMap preorder := by
  induction nodes with
  | nil => rfl
  | cons node nodes ih => rw [preorderAll, ih, List.flatMap_cons]

theorem visit_eq (stack : List Node) : visit stack = preorderAll stack := by
  induction stack using visit.induct with
  | case1 => rw [visit, preorderAll]
  | case2 node stack ih =>
    rw [visit, ih, preorderAll, preorder_eq, preorderAll_eq_flatMap, preorderAll_eq_flatMap,
      preorderAll_eq_flatMap, List.flatMap_append, List.cons_append]

theorem visit_singleton (root : Node) : visit [root] = root.preorder := by
  rw [visit_eq, preorderAll, preorderAll, List.append_nil]

/-- The bytes of every child lie inside its parent, and children follow one another. -/
inductive Nested : Node → Prop
  | intro {node : Node} (range : node.start ≤ node.stop)
      (inside : ∀ child ∈ node.children, node.start ≤ child.start ∧ child.stop ≤ node.stop)
      (apart : node.children.Pairwise fun a b => a.stop ≤ b.start)
      (below : ∀ child ∈ node.children, Nested child) : Nested node

theorem Nested.leaf {node : Node} (range : node.start ≤ node.stop) (sole : node.children = []) :
    Nested node :=
  ⟨range, by simp [sole], by simp [sole], by simp [sole]⟩

theorem Nested.starts_within {root node : Node} (nested : Nested root)
    (member : node ∈ root.preorder) : root.start ≤ node.start ∧ node.start ≤ root.stop := by
  induction nested with
  | @intro root range inside apart below ih =>
    rw [preorder_eq, preorderAll_eq_flatMap, List.mem_cons, List.mem_flatMap] at member
    rcases member with rfl | ⟨child, mine, member⟩
    · exact ⟨Nat.le_refl _, range⟩
    · have outer := inside child mine
      have inner := ih child mine member
      omega

theorem Nested.starts_ordered {root : Node} (nested : Nested root) :
    root.preorder.Pairwise fun a b => a.start ≤ b.start := by
  induction nested with
  | @intro root range inside apart below ih =>
    rw [preorder_eq, preorderAll_eq_flatMap, List.pairwise_cons, List.pairwise_flatMap]
    refine ⟨fun node member => ?_, ih, ?_⟩
    · obtain ⟨child, mine, member⟩ := List.mem_flatMap.1 member
      have outer := inside child mine
      have inner := (below child mine).starts_within member
      omega
    · refine apart.imp_of_mem fun {a b} mine mine' before x within y within' => ?_
      have left := (below a mine).starts_within within
      have right := (below b mine').starts_within within'
      omega

end Phrasebook.Syntax.Node
