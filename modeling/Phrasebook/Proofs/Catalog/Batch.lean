import Phrasebook.Proofs.Attempts
import Phrasebook.Proofs.Catalog.Update
import Phrasebook.Proofs.Project.Touch

namespace Phrasebook.Catalog

open Phrasebook.Tree (Touched)

def placesOf (targets : List String) : List Path :=
  targets.map fun target => (Path.ofText target).resolve

theorem resolve_mem_placesOf {path : String} {targets : List String} (member : path ∈ targets) :
    (Path.ofText path).resolve ∈ placesOf targets := List.mem_map_of_mem member

theorem read_error_of_touched {places : List Path} {before after : Tree} {path : String}
    {fault : FaultAt} (touched : Touched places before after)
    (other : (Path.ofText path).resolve ∉ places) (unreadable : read before path = .error fault) :
    read after path = .error fault := by
  have found : before.read (Path.ofText path) ≠ .error .missing := by
    intro missing
    rw [read_eq, missing] at unreadable
    cases unreadable
  rw [read_eq] at unreadable
  rw [read_eq, touched.read other found]
  exact unreadable

theorem touched_of_write {targets : List String} {path : String} (member : path ∈ targets)
    {tree after : Tree} {sorted pretty : Bool} {catalog : Catalog}
    (written : write tree path sorted pretty catalog = .ok after) :
    Touched (placesOf targets) tree after :=
  .of_write (resolve_mem_placesOf member) (write_eq_ok_iff.1 written)

section

variable (options : ReconcileOptions)

theorem touched_updateTargets (source : Catalog) (targets : List String) (tree : Tree) :
    Touched (placesOf targets) tree (updateTargets options source targets tree).tree :=
  updateTargets_preserves_of_mem (Touched (placesOf targets) tree) targets
    (fun path touched => touched.trans (.of_makeWay _ _ path))
    (fun _ member touched _ written => touched.trans (touched_of_write member written))
    (.refl _ tree)

theorem touched_updateFiles (source : String) (targets : List String) (tree : Tree) :
    Touched (placesOf targets) tree (updateFiles options source targets tree).tree := by
  unfold updateFiles
  split
  · exact .refl _ tree
  · exact touched_updateTargets options _ targets tree

variable {options}

theorem updateTargets_of_unreadable {source : Catalog} {front : List String} {bad : String}
    {tree : Tree} {updates : List Update} {fault : FaultAt}
    (ended : (updateTargets options source front tree).outcome = .ok updates)
    (unreadable : read (updateTargets options source front tree).tree bad = .error fault)
    (back : List String) :
    updateTargets options source (front ++ bad :: back) tree =
      { updateTargets options source front tree with outcome := .error fault } := by
  induction front generalizing tree updates with
  | nil =>
    rw [updateTargets] at unreadable
    rw [List.nil_append, updateTargets, updateTargets, unreadable]
  | cons path front ih =>
    rw [List.cons_append, updateTargets, updateTargets]
    rw [updateTargets] at ended unreadable
    cases found : read tree path with
    | error fault =>
      rw [found] at ended
      cases ended
    | ok target =>
      simp only [found] at ended unreadable ⊢
      cases written : write tree path true true (reconcileFully options source target).result with
      | error fault =>
        rw [written] at ended
        cases ended
      | ok after =>
        simp only [written] at ended unreadable ⊢
        obtain ⟨rest, done, _⟩ := map_eq_ok_iff.1 ended
        rw [ih done unreadable]
        rfl

theorem updateFiles_of_unreadable {source : String} {front : List String} {bad : String}
    {tree : Tree} {updates : List Update} {fault : FaultAt}
    (ended : (updateFiles options source front tree).outcome = .ok updates)
    (unreadable : read (updateFiles options source front tree).tree bad = .error fault)
    (back : List String) :
    updateFiles options source (front ++ bad :: back) tree =
      { updateFiles options source front tree with outcome := .error fault } := by
  unfold updateFiles at ended unreadable ⊢
  cases found : read tree source with
  | error fault =>
    rw [found] at ended
    cases ended
  | ok catalog =>
    rw [found] at ended unreadable
    exact updateTargets_of_unreadable ended unreadable back

end

end Phrasebook.Catalog
