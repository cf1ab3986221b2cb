import Mathlib.Data.List.Basic
import Phrasebook.Proofs.Syntax.Node

namespace Phrasebook.Syntax

abbrev Place := List Nat

namespace Place

/-- One place comes before another, and neither lies inside the other. -/
inductive Before : Place → Place → Prop
  | here {i j : Nat} (less : i < j) (a b : Place) : Before (i :: a) (j :: b)
  | inside (i : Nat) {a b : Place} (before : Before a b) : Before (i :: a) (i :: b)

theorem Before.not_prefix {a b : Place} (h : a.Before b) : ¬ a <+: b ∧ ¬ b <+: a := by
  induction h with
  | here less a b =>
    rw [List.cons_prefix_cons, List.cons_prefix_cons]
    exact ⟨fun same => Nat.ne_of_lt less same.1, fun same => Nat.ne_of_lt less same.1.symm⟩
  | inside i _ ih =>
    rw [List.cons_prefix_cons, List.cons_prefix_cons]
    exact ⟨fun same => ih.1 same.2, fun same => ih.2 same.2⟩

end Place

namespace Node

@[elab_as_elim]
theorem childrenInduction {motive : Node → Prop}
    (step : ∀ node : Node, (∀ child ∈ node.children, motive child) → motive node) (node : Node) :
    motive node :=
  step node fun child _ => childrenInduction step child
termination_by sizeOf node
decreasing_by exact sizeOf_lt_of_mem ‹_›

def at? (root : Node) : Place → Option Node
  | [] => some root
  | i :: place => root.children[i]?.bind fun child => child.at? place

variable {root node : Node} {p : Node → Bool}

theorem at?_cons_eq_some_iff {i : Nat} {place : Place} :
    root.at? (i :: place) = some node ↔
      ∃ child, root.children[i]? = some child ∧ child.at? place = some node :=
  Option.bind_eq_some_iff

theorem at?_of_child {i : Nat} {child : Node} (found : root.children[i]? = some child)
    (place : Place) : root.at? (i :: place) = child.at? place := by
  rw [at?, found]
  rfl

theorem mem_preorder_iff : node ∈ root.preorder ↔ ∃ place, root.at? place = some node := by
  induction root using childrenInduction with
  | step root ih =>
    rw [preorder_eq, preorderAll_eq_flatMap, List.mem_cons, List.mem_flatMap]
    constructor
    · rintro (rfl | ⟨child, mine, member⟩)
      · exact ⟨[], rfl⟩
      · obtain ⟨place, stands⟩ := (ih child mine).1 member
        obtain ⟨i, found⟩ := List.mem_iff_getElem?.1 mine
        exact ⟨i :: place, at?_cons_eq_some_iff.2 ⟨child, found, stands⟩⟩
    · rintro ⟨place, stands⟩
      cases place with
      | nil => exact .inl (Option.some.inj stands).symm
      | cons i place =>
        obtain ⟨child, found, stands⟩ := at?_cons_eq_some_iff.1 stands
        have mine := List.mem_of_getElem? found
        exact .inr ⟨child, mine, (ih child mine).2 ⟨place, stands⟩⟩

def Under (p : Node → Bool) (root : Node) (place : Place) : Prop :=
  ∃ above outer, above <+: place ∧ above ≠ place ∧ root.at? above = some outer ∧ p outer = true

structure Outermost (p : Node → Bool) (root : Node) (place : Place) (node : Node) : Prop where
  stands : root.at? place = some node
  holds : p node = true
  free : ∀ above outer, above <+: place → above ≠ place → root.at? above = some outer →
    p outer = false

theorem Outermost.not_under {q : Node → Bool} {place : Place} (outermost : Outermost p root place node)
    (stronger : ∀ node, q node = true → p node = true) : ¬ Under q root place := by
  rintro ⟨above, outer, inside, other, there, holds⟩
  have passed := outermost.free above outer inside other there
  rw [stronger outer holds] at passed
  cases passed

theorem outermost_nil_iff : Outermost p root [] node ↔ p root = true ∧ node = root := by
  constructor
  · intro h
    obtain rfl := Option.some.inj h.stands
    exact ⟨h.holds, rfl⟩
  · rintro ⟨holds, rfl⟩
    exact ⟨rfl, holds, fun above _ inside other => absurd (List.prefix_nil.1 inside) other⟩

theorem outermost_cons_iff {i : Nat} {place : Place} :
    Outermost p root (i :: place) node ↔
      p root = false ∧ ∃ child, root.children[i]? = some child ∧ Outermost p child place node := by
  constructor
  · intro h
    obtain ⟨child, found, stands⟩ := at?_cons_eq_some_iff.1 h.stands
    refine ⟨h.free [] root List.nil_prefix (List.cons_ne_nil _ _).symm rfl, child, found, stands,
      h.holds, fun above outer inside other there => ?_⟩
    refine h.free (i :: above) outer (List.cons_prefix_cons.2 ⟨rfl, inside⟩) ?_ ?_
    · exact fun same => other (List.cons.inj same).2
    · rw [at?_of_child found]
      exact there
  · rintro ⟨passed, child, found, stands, holds, free⟩
    refine ⟨at?_cons_eq_some_iff.2 ⟨child, found, stands⟩, holds, fun above outer inside other there => ?_⟩
    cases above with
    | nil =>
      obtain rfl := Option.some.inj there
      exact passed
    | cons j above =>
      obtain ⟨rfl, deeper⟩ := List.cons_prefix_cons.1 inside
      rw [at?_of_child found] at there
      exact free above outer deeper (fun same => other (congrArg _ same)) there

/-- A node with its place. -/
abbrev Site := Place × Node

/-- A site of the tree at a place, as one of the whole tree. -/
def Site.below (outer : Place) (site : Site) : Site := (outer ++ site.1, site.2)

theorem Site.below_nil : Site.below [] = id := rfl

theorem Site.below_below (outer inner : Place) :
    Site.below outer ∘ Site.below inner = Site.below (outer ++ inner) := by
  funext site
  rw [Function.comp_apply, below, below, below, List.append_assoc]

mutual

/-- The outermost nodes that satisfy a condition, in their order. -/
def outermost (p : Node → Bool) : Node → List Site
  | ⟨kind, start, stop, named, missing, hasError, field, children⟩ =>
    let node : Node := ⟨kind, start, stop, named, missing, hasError, field, children⟩
    if p node then [([], node)] else outermostFrom p 0 children

def outermostFrom (p : Node → Bool) : Nat → List Node → List Site
  | _, [] => []
  | i, node :: rest => (outermost p node).map (Site.below [i]) ++ outermostFrom p (i + 1) rest

end

theorem outermostFrom_eq (p : Node → Bool) (i : Nat) (nodes : List Node) :
    outermostFrom p i nodes =
      (nodes.zipIdx i).flatMap fun child => (outermost p child.1).map (Site.below [child.2]) := by
  induction nodes generalizing i with
  | nil => rfl
  | cons node rest ih => rw [outermostFrom, ih, List.zipIdx_cons, List.flatMap_cons]

theorem outermost_of_holds (holds : p root = true) : root.outermost p = [([], root)] := by
  cases root
  rw [outermost, if_pos holds]

theorem outermost_of_not_holds (passed : p root = false) :
    root.outermost p = root.children.zipIdx.flatMap fun child =>
      (outermost p child.1).map (Site.below [child.2]) := by
  cases root
  rw [outermost, if_neg (by rw [passed]; exact Bool.false_ne_true), outermostFrom_eq]

theorem mem_outermost_iff {place : Place} :
    (place, node) ∈ root.outermost p ↔ Outermost p root place node := by
  induction root using childrenInduction generalizing place with
  | step root ih =>
    cases holds : p root with
    | true =>
      rw [outermost_of_holds holds, List.mem_singleton, Prod.mk.injEq]
      cases place with
      | nil => simp [outermost_nil_iff, holds]
      | cons i place => simp [outermost_cons_iff, holds]
    | false =>
      rw [outermost_of_not_holds holds]
      simp only [List.mem_flatMap, List.mem_map, Site.below, Prod.mk.injEq, Prod.exists]
      cases place with
      | nil => simp [outermost_nil_iff, holds]
      | cons i place =>
        rw [outermost_cons_iff]
        constructor
        · rintro ⟨child, j, member, _, _, inner, same, rfl⟩
          obtain ⟨rfl, rfl⟩ := List.cons.inj same
          have found := List.mem_zipIdx_iff_getElem?.1 member
          exact ⟨holds, child, found, (ih child (List.mem_of_getElem? found)).1 inner⟩
        · rintro ⟨-, child, found, inner⟩
          exact ⟨child, i, List.mem_zipIdx_iff_getElem?.2 found, place, node,
            (ih child (List.mem_of_getElem? found)).2 inner, rfl, rfl⟩

theorem pairwise_outermost (p : Node → Bool) (root : Node) :
    (root.outermost p).Pairwise fun a b => a.1.Before b.1 := by
  induction root using childrenInduction with
  | step root ih =>
    cases holds : p root with
    | true =>
      rw [outermost_of_holds holds]
      exact List.pairwise_singleton _ _
    | false =>
      rw [outermost_of_not_holds holds, List.pairwise_flatMap]
      constructor
      · rintro ⟨child, i⟩ member
        have found := List.mem_zipIdx_iff_getElem?.1 member
        rw [List.pairwise_map]
        exact (ih child (List.mem_of_getElem? found)).imp fun before => .inside i before
      · have numbered : root.children.zipIdx.Pairwise fun a b => a.2 < b.2 := by
          have numbers := List.pairwise_lt_range' (s := 0) (n := root.children.length) 1
          rwa [← List.zipIdx_map_snd, List.pairwise_map] at numbers
        refine numbered.imp fun less a inA b inB => ?_
        obtain ⟨_, _, rfl⟩ := List.mem_map.1 inA
        obtain ⟨_, _, rfl⟩ := List.mem_map.1 inB
        exact .here less _ _

theorem outermost_of_imp {q : Node → Bool} (weaker : ∀ node, p node = true → q node = true)
    (root : Node) :
    root.outermost p = (root.outermost q).flatMap fun site =>
      (site.2.outermost p).map (Site.below site.1) := by
  induction root using childrenInduction with
  | step root ih =>
    cases holds : q root with
    | true =>
      rw [outermost_of_holds holds, List.flatMap_singleton, Site.below_nil, List.map_id]
    | false =>
      have passed : p root = false := by
        cases strong : p root with
        | false => rfl
        | true => rw [weaker root strong] at holds; cases holds
      rw [outermost_of_not_holds holds, outermost_of_not_holds passed, List.flatMap_assoc]
      refine List.flatMap_congr fun child member => ?_
      have found := List.mem_zipIdx_iff_getElem?.1 member
      rw [ih child.1 (List.mem_of_getElem? found), List.map_flatMap, List.flatMap_map]
      refine List.flatMap_congr fun site _ => ?_
      rw [List.map_map, Site.below_below]
      rfl

section Walks

variable {α : Type} (judge : Node → Verdict α)

def Verdict.taken? : Verdict α → Option α
  | take a => some a
  | _ => none

def Verdict.stops : Verdict α → Bool
  | enter => false
  | _ => true

theorem Verdict.taken?_eq_some_iff {verdict : Verdict α} {a : α} :
    verdict.taken? = some a ↔ verdict = take a := by
  cases verdict <;> simp [taken?]

@[simp] theorem Verdict.ofOption_eq_take_iff {a? : Option α} {a : α} :
    Verdict.ofOption a? = take a ↔ a? = some a := by
  cases a? <;> simp [ofOption]

@[simp] theorem Verdict.stops_ofOption (a? : Option α) : (Verdict.ofOption a?).stops = true := by
  cases a? <;> rfl

mutual

/-- What a recursion over a tree takes: of a node that it enters, what it takes from the children. -/
def gather : Node → List α
  | ⟨kind, start, stop, named, missing, hasError, field, children⟩ =>
    match judge ⟨kind, start, stop, named, missing, hasError, field, children⟩ with
    | .take a => [a]
    | .skip => []
    | .enter => gatherAll children

def gatherAll : List Node → List α
  | [] => []
  | node :: rest => gather node ++ gatherAll rest

end

theorem gatherAll_eq_flatMap (nodes : List Node) :
    gatherAll judge nodes = nodes.flatMap (gather judge) := by
  induction nodes with
  | nil => rfl
  | cons node nodes ih => rw [gatherAll, ih, List.flatMap_cons]

theorem gather_eq (node : Node) :
    gather judge node =
      match judge node with
      | .take a => [a]
      | .skip => []
      | .enter => node.children.flatMap (gather judge) := by
  cases node
  rw [gather, gatherAll_eq_flatMap]

theorem sweep_eq (stack : List Node) : sweep judge stack = stack.flatMap (gather judge) := by
  induction stack using sweep.induct judge with
  | case1 => rw [sweep, List.flatMap_nil]
  | case2 node stack a taken ih => rw [sweep, taken, List.flatMap_cons, gather_eq, taken, ih]; rfl
  | case3 node stack skipped ih => rw [sweep, skipped, List.flatMap_cons, gather_eq, skipped, ih]; rfl
  | case4 node stack entered ih =>
    rw [sweep, entered, List.flatMap_cons, gather_eq, entered, ih, List.flatMap_append]

theorem sweep_singleton (root : Node) : sweep judge [root] = gather judge root := by
  rw [sweep_eq, List.flatMap_singleton]

theorem gather_eq_filterMap (root : Node) :
    gather judge root =
      (root.outermost fun node => (judge node).stops).filterMap fun site => (judge site.2).taken? := by
  induction root using childrenInduction with
  | step root ih =>
    rw [gather_eq]
    cases verdict : judge root with
    | take a => rw [outermost_of_holds (by rw [verdict]; rfl)]; simp [verdict, Verdict.taken?]
    | skip => rw [outermost_of_holds (by rw [verdict]; rfl)]; simp [verdict, Verdict.taken?]
    | enter =>
      rw [outermost_of_not_holds (by rw [verdict]; rfl), List.filterMap_flatMap]
      simp only [List.filterMap_map]
      rw [List.flatMap_congr fun child mine => ih child mine]
      conv_lhs => rw [← List.zipIdx_map_fst 0 root.children, List.flatMap_map]
      rfl

end Walks

section Ranges

theorem Nested.within {place : Place} (nested : root.Nested) (stands : root.at? place = some node) :
    node.Nested ∧ root.start ≤ node.start ∧ node.stop ≤ root.stop := by
  induction place generalizing root with
  | nil =>
    obtain rfl := Option.some.inj stands
    exact ⟨nested, Nat.le_refl _, Nat.le_refl _⟩
  | cons i place ih =>
    obtain ⟨child, found, stands⟩ := at?_cons_eq_some_iff.1 stands
    have mine := List.mem_of_getElem? found
    cases nested with
    | intro _ inside _ below =>
      obtain ⟨deeper, starts, stops⟩ := ih (below child mine) stands
      have outer := inside child mine
      exact ⟨deeper, by omega, by omega⟩

theorem Nested.apart_of_before {a b : Place} {x y : Node} (nested : root.Nested) (before : a.Before b)
    (standsA : root.at? a = some x) (standsB : root.at? b = some y) : x.stop ≤ y.start := by
  induction before generalizing root with
  | @here i j less a b =>
    obtain ⟨first, foundA, standsA⟩ := at?_cons_eq_some_iff.1 standsA
    obtain ⟨second, foundB, standsB⟩ := at?_cons_eq_some_iff.1 standsB
    cases nested with
    | intro _ _ apart below =>
      have left := ((below first (List.mem_of_getElem? foundA)).within standsA).2.2
      have right := ((below second (List.mem_of_getElem? foundB)).within standsB).2.1
      obtain ⟨inI, rfl⟩ := List.getElem?_eq_some_iff.1 foundA
      obtain ⟨inJ, rfl⟩ := List.getElem?_eq_some_iff.1 foundB
      have between := List.pairwise_iff_getElem.1 apart i j inI inJ less
      omega
  | inside i _ ih =>
    obtain ⟨child, found, standsA⟩ := at?_cons_eq_some_iff.1 standsA
    rw [at?_of_child found] at standsB
    cases nested with
    | intro _ _ _ below => exact ih (below child (List.mem_of_getElem? found)) standsA standsB

end Ranges

end Node

end Phrasebook.Syntax
