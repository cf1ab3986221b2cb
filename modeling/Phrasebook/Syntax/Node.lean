import Phrasebook.Text.Utf8

namespace Phrasebook.Syntax

structure Node where
  kind : String
  start : Nat
  stop : Nat
  named : Bool
  missing : Bool
  hasError : Bool
  field : String
  children : List Node
  deriving Inhabited

namespace Node

def namedChildren (node : Node) : List Node :=
  node.children.filter (·.named)

def child? (node : Node) (role : String) : Option Node :=
  node.children.find? (·.field == role)

def bytes (source : List UInt8) (node : Node) : List UInt8 :=
  (source.drop node.start).take (node.stop - node.start)

def text (source : List UInt8) (node : Node) : List Char :=
  Text.decodeLossy (node.bytes source)

def isComment (node : Node) : Bool := node.kind == "comment"

mutual

def preorder : Node → List Node
  | ⟨kind, start, stop, named, missing, hasError, field, children⟩ =>
    ⟨kind, start, stop, named, missing, hasError, field, children⟩ :: preorderAll children

def preorderAll : List Node → List Node
  | [] => []
  | node :: rest => node.preorder ++ preorderAll rest

end

theorem sizeOf_children_lt (node : Node) : sizeOf node.children < sizeOf node := by
  cases node
  simp only [Node.mk.sizeOf_spec]
  omega

theorem sizeOf_lt_of_mem {node child : Node} (h : child ∈ node.children) :
    sizeOf child < sizeOf node :=
  Nat.lt_trans (List.sizeOf_lt_of_mem h) node.sizeOf_children_lt

theorem sizeOf_append (nodes stack : List Node) :
    sizeOf (nodes ++ stack) + 1 = sizeOf nodes + sizeOf stack := by
  induction nodes with
  | nil =>
    simp only [List.nil_append, List.nil.sizeOf_spec]
    omega
  | cons node nodes ih =>
    simp only [List.cons_append, List.cons.sizeOf_spec]
    omega

def visit : List Node → List Node
  | [] => []
  | node :: stack => node :: visit (node.children ++ stack)
termination_by stack => sizeOf stack
decreasing_by
  have := sizeOf_append node.children stack
  have := node.sizeOf_children_lt
  simp only [List.cons.sizeOf_spec]
  omega

/-- What a walk over a tree does at a node: take something from it, pass it over with all that is
    inside, or enter it. -/
inductive Verdict (α : Type) where
  | take (a : α)
  | skip
  | enter
  deriving DecidableEq, Repr

def Verdict.ofOption {α : Type} : Option α → Verdict α
  | some a => take a
  | none => skip

/-- What a walk takes that keeps the nodes still to visit on a stack, and enters some of them only. -/
def sweep {α : Type} (judge : Node → Verdict α) : List Node → List α
  | [] => []
  | node :: stack =>
    match judge node with
    | .take a => a :: sweep judge stack
    | .skip => sweep judge stack
    | .enter => sweep judge (node.children ++ stack)
termination_by stack => sizeOf stack
decreasing_by
  · simp only [List.cons.sizeOf_spec]
    omega
  · simp only [List.cons.sizeOf_spec]
    omega
  · have := sizeOf_append node.children stack
    have := node.sizeOf_children_lt
    simp only [List.cons.sizeOf_spec]
    omega

def errorKind : String := "ERROR"

def leaf (kind : String) (named : Bool) (start stop : Nat) : Node :=
  ⟨kind, start, stop, named, false, kind == errorKind, "", []⟩

def assumed (kind : String) (start : Nat) : Node :=
  ⟨kind, start, start, false, true, true, "", []⟩

def branch (kind : String) (start : Nat) (children : List Node) : Node :=
  { kind, named := true, missing := false, field := "", children,
    start := (children.head?.map (·.start)).getD start,
    stop := (children.getLast?.map (·.stop)).getD start,
    hasError := kind == errorKind || children.any (·.hasError) }

end Node

end Phrasebook.Syntax
