import Phrasebook.Project.Glob
import Phrasebook.Proofs.Attempts
import Phrasebook.Proofs.Project.Write

namespace Phrasebook

def upward : String := ".."

namespace Path

theorem enter_of_ne {here : Path} {part : String} (down : part ≠ upward) :
    here.enter part = here ++ [part] := if_neg (by simpa [upward] using down)

theorem foldl_enter_of_not_mem {parts : List String} (down : upward ∉ parts) (here : Path) :
    parts.foldl enter here = here ++ parts := by
  induction parts generalizing here with
  | nil => simp
  | cons part parts ih =>
    rw [List.mem_cons, not_or] at down
    rw [List.foldl_cons, ih down.2, enter_of_ne fun same => down.1 same.symm, List.append_assoc,
      List.singleton_append]

theorem resolve_of_not_mem {path : Path} (down : upward ∉ path) : path.resolve = path := by
  rw [resolve, foldl_enter_of_not_mem down, List.nil_append]

theorem placesFrom_append (here : Path) (front back : List String) :
    placesFrom here (front ++ back) =
      placesFrom here front ++ placesFrom (front.foldl enter here) back := by
  induction front generalizing here with
  | nil => rfl
  | cons part front ih => rw [List.cons_append, placesFrom, ih, placesFrom]; rfl

theorem prefix_of_mem_placesFrom {parts : List String} (down : upward ∉ parts) {here place : Path}
    (h : place ∈ placesFrom here parts) : place <+: here ++ parts := by
  induction parts generalizing here with
  | nil => cases h
  | cons part parts ih =>
    rw [List.mem_cons, not_or] at down
    rw [placesFrom, enter_of_ne fun same => down.1 same.symm] at h
    have whole : here ++ part :: parts = here ++ [part] ++ parts := by simp
    rw [whole]
    rcases List.mem_cons.1 h with rfl | h
    · exact List.prefix_append _ _
    · exact ih down.2 h

theorem upward_not_mem_enter {here : Path} (h : upward ∉ here) (part : String) :
    upward ∉ here.enter part := by
  by_cases up : part = upward
  · rw [enter, if_pos (by simpa [upward] using up)]
    exact fun member => h (List.mem_of_mem_dropLast member)
  · rw [enter_of_ne up, List.mem_append, List.mem_singleton, not_or]
    exact ⟨h, fun same => up same.symm⟩

theorem upward_not_mem_placesFrom {here : Path} (h : upward ∉ here) {parts : List String}
    {place : Path} (member : place ∈ placesFrom here parts) : upward ∉ place := by
  induction parts generalizing here with
  | nil => cases member
  | cons part parts ih =>
    have next := upward_not_mem_enter h part
    rcases List.mem_cons.1 member with rfl | member
    · exact next
    · exact ih next member

theorem upward_not_mem_resolve (path : Path) : upward ∉ path.resolve := by
  by_cases empty : path = []
  · simp [empty, resolve]
  · exact upward_not_mem_placesFrom List.not_mem_nil (foldl_enter_mem_placesFrom [] empty)

end Path

namespace Tree

theorem isInside_iff {path folder : Path} :
    isInside path folder = true ↔ folder <+: path ∧ path ≠ folder := by
  rw [isInside, Bool.and_eq_true, List.isPrefixOf_iff_prefix, bne_iff_ne]

theorem isFile_iff {tree : Tree} {place : Path} :
    tree.isFile place = true ↔ place ∈ tree.files.map (·.1) := by
  rw [isFile, content?, ← not_iff_not, Bool.not_eq_true, Option.isSome_eq_false_iff,
    Option.isNone_iff_eq_none, List.lookup_eq_none_iff, List.mem_map]
  constructor
  · rintro h ⟨file, member, rfl⟩
    simpa using h file member
  · intro h file member
    rw [bne_iff_ne]
    exact fun same => h ⟨file, member, same.symm⟩

theorem isFolder_iff {tree : Tree} {place : Path} :
    tree.isFolder place = true ↔
      place = [] ∨ (∃ folder ∈ tree.folders, place <+: folder) ∨
        ∃ file ∈ tree.files, place <+: file.1 ∧ file.1 ≠ place := by
  simp only [isFolder, Bool.or_eq_true, List.isEmpty_iff, List.any_eq_true,
    List.isPrefixOf_iff_prefix, isInside_iff, or_assoc]

def Proper (tree : Tree) : Prop := ∀ path ∈ tree.files.map (·.1) ++ tree.folders, upward ∉ path

theorem Proper.of_isFile {tree : Tree} (proper : tree.Proper) {place : Path}
    (h : tree.isFile place = true) : upward ∉ place :=
  proper place (List.mem_append_left _ (isFile_iff.1 h))

theorem Proper.of_isFolder {tree : Tree} (proper : tree.Proper) {place : Path}
    (h : tree.isFolder place = true) : upward ∉ place := by
  rcases isFolder_iff.1 h with rfl | ⟨folder, member, inside⟩ | ⟨file, member, inside, -⟩
  · simp
  · exact fun up => proper folder (List.mem_append_right _ member) (inside.subset up)
  · exact fun up => proper file.1 (List.mem_append_left _ (List.mem_map_of_mem member))
      (inside.subset up)

theorem isFolder_of_isFile {tree : Tree} {place outer : Path} (h : tree.isFile place = true)
    (inside : outer <+: place) (other : place ≠ outer) : tree.isFolder outer = true := by
  obtain ⟨file, member, rfl⟩ := List.mem_map.1 (isFile_iff.1 h)
  exact isFolder_iff.2 (.inr (.inr ⟨file, member, inside, other⟩))

theorem concat_prefix_iff {folder path : Path} {name : String} :
    folder ++ [name] <+: path ↔ folder <+: path ∧ path[folder.length]? = some name := by
  constructor
  · rintro ⟨rest, rfl⟩
    exact ⟨⟨name :: rest, by simp⟩, by simp⟩
  · rintro ⟨⟨rest, rfl⟩, here⟩
    rw [List.getElem?_append_right (Nat.le_refl _), Nat.sub_self] at here
    obtain ⟨rest, rfl⟩ := List.head?_eq_some_iff.1 (List.head?_eq_getElem? ▸ here)
    exact ⟨rest, by simp⟩

theorem mem_children_iff {tree : Tree} {folder : Path} {name : String} :
    name ∈ tree.children folder ↔
      tree.isFile (folder ++ [name]) = true ∨ tree.isFolder (folder ++ [name]) = true := by
  have below : name ∈ tree.children folder ↔
      ∃ path ∈ tree.files.map (·.1) ++ tree.folders, folder ++ [name] <+: path := by
    simp only [children, List.mem_eraseDups, List.mem_filterMap, Option.ite_none_right_eq_some,
      concat_prefix_iff, isInside_iff]
    refine exists_congr fun path => and_congr_right fun _ => ?_
    refine ⟨fun h => ⟨h.1.1, h.2⟩, fun h => ⟨⟨h.1, ?_⟩, h.2⟩⟩
    rintro rfl
    simp at h
  rw [below, isFile_iff, isFolder_iff]
  constructor
  · rintro ⟨path, member, inside⟩
    rcases List.mem_append.1 member with member | member
    · by_cases same : path = folder ++ [name]
      · exact .inl (same ▸ member)
      · obtain ⟨file, held, rfl⟩ := List.mem_map.1 member
        exact .inr (.inr (.inr ⟨file, held, inside, same⟩))
    · exact .inr (.inr (.inl ⟨path, member, inside⟩))
  · rintro (member | none' | ⟨path, member, inside⟩ | ⟨file, member, inside, -⟩)
    · exact ⟨_, List.mem_append_left _ member, List.prefix_refl _⟩
    · simp at none'
    · exact ⟨path, List.mem_append_right _ member, inside⟩
    · exact ⟨file.1, List.mem_append_left _ (List.mem_map_of_mem member), inside⟩

theorem mem_leading_iff {path folder : Path} : folder ∈ Glob.leading path ↔ folder <+: path := by
  simp only [Glob.leading, List.mem_map, List.mem_range]
  constructor
  · rintro ⟨n, -, rfl⟩
    exact List.take_prefix n path
  · intro inside
    exact ⟨folder.length, Nat.lt_succ_of_le inside.length_le, (List.prefix_iff_eq_take.1 inside).symm⟩

theorem prefix_dropLast_iff {folder path : Path} (some' : folder ≠ []) :
    folder <+: path.dropLast ↔ folder <+: path ∧ path ≠ folder := by
  constructor
  · intro inside
    refine ⟨inside.trans (List.dropLast_prefix path), ?_⟩
    rintro rfl
    have shorter := inside.length_le
    have length := List.length_pos_iff.2 some'
    rw [List.length_dropLast] at shorter
    omega
  · rintro ⟨⟨rest, rfl⟩, other⟩
    rw [List.dropLast_append_of_ne_nil fun empty => other (by rw [empty, List.append_nil])]
    exact List.prefix_append _ _

theorem mem_foldersWithin_iff {tree : Tree} {here folder : Path} :
    folder ∈ Glob.foldersWithin tree here ↔
      folder = here ∨ tree.isFolder folder = true ∧ here <+: folder ∧ folder ≠ here := by
  rw [Glob.foldersWithin, List.mem_cons, List.mem_filter, List.mem_eraseDups, isInside_iff]
  refine or_congr_right (and_congr_left fun inside => ?_)
  have some' : folder ≠ [] := by
    rintro rfl
    exact inside.2 (List.prefix_nil.1 inside.1).symm
  rw [isFolder_iff, List.mem_append, List.mem_flatMap, List.mem_flatMap]
  simp only [mem_leading_iff, prefix_dropLast_iff some', some', false_or]
  exact or_comm

theorem prefix_of_mem_foldersWithin {tree : Tree} {here folder : Path}
    (h : folder ∈ Glob.foldersWithin tree here) : here <+: folder := by
  rcases mem_foldersWithin_iff.1 h with rfl | ⟨-, inside, -⟩
  · exact List.prefix_refl _
  · exact inside

theorem isFolder_of_isFile_concat {tree : Tree} {folder : Path} {name : String}
    (h : tree.isFile (folder ++ [name]) = true) : tree.isFolder folder = true := by
  apply isFolder_of_isFile h
  · exact List.prefix_append _ _
  · simp

theorem mem_foldersWithin_of_isFolder {tree : Tree} {here : Path} {parts : List String}
    (h : tree.isFolder (here ++ parts) = true) : here ++ parts ∈ Glob.foldersWithin tree here := by
  rw [mem_foldersWithin_iff]
  by_cases same : here ++ parts = here
  · exact .inl same
  · exact .inr ⟨h, List.prefix_append _ _, same⟩

structure Shared (tree other : Tree) (place : Path) : Prop where
  here : tree.isFile place = true
  there : other.isFile place = true
  above : ∀ outer, outer <+: place → tree.isFolder outer = other.isFolder outer

theorem Shared.symm {tree other : Tree} {place : Path} (shared : Shared tree other place) :
    Shared other tree place :=
  ⟨shared.there, shared.here, fun outer inside => (shared.above outer inside).symm⟩

section

variable {tree after : Tree} {path place : Path} {bytes : List UInt8}

theorem isFile_write_iff (h : tree.write path bytes = .ok after) :
    after.isFile place = true ↔ place = path.resolve ∨ tree.isFile place = true := by
  rw [isFile, content?_write h]
  by_cases same : place = path.resolve
  · simp [same]
  · simp [same, isFile]

theorem Proper.of_write (proper : tree.Proper) (h : tree.write path bytes = .ok after) :
    after.Proper := by
  intro place member
  rcases List.mem_append.1 member with file | inner
  · rcases (isFile_write_iff h).1 (isFile_iff.2 file) with rfl | file
    · exact Path.upward_not_mem_resolve path
    · exact proper.of_isFile file
  · have folder : after.isFolder place = true :=
      isFolder_iff.2 (.inr (.inl ⟨place, inner, List.prefix_refl place⟩))
    rcases (isFolder_write_iff h).1 folder with folder | passed
    · exact proper.of_isFolder folder
    · exact Path.upward_not_mem_placesFrom List.not_mem_nil passed

theorem shared_of_write (h : tree.write path bytes = .ok after) (file : tree.isFile place = true) :
    Shared tree after place := by
  refine ⟨file, (isFile_write_iff h).2 (.inr file), fun outer inside => ?_⟩
  rw [Bool.eq_iff_iff, isFolder_write_iff h]
  refine ⟨.inl, fun folder => folder.elim id fun passed => ?_⟩
  have unblocked := (write_eq_ok_iff.1 h).1.unblocked outer passed
  apply isFolder_of_isFile file inside
  rintro rfl
  rw [file] at unblocked
  cases unblocked

theorem readText_of_write (h : tree.write path bytes = .ok after) (passable : tree.Passable place)
    (file : tree.isFile place.resolve = true) (apart : place.resolve ≠ path.resolve) :
    after.readText place = tree.readText place := by
  have still : after.Passable place := fun outer member =>
    (isFolder_write_iff h).2 (.inl (passable outer member))
  have folder := (shared_of_write h file).above place.resolve (List.prefix_refl _)
  have read : after.read place = tree.read place := by
    unfold read
    rw [locate_eq_ok_iff.2 ⟨passable, rfl⟩, locate_eq_ok_iff.2 ⟨still, rfl⟩]
    simp only [bind, Except.bind, folder, content?_write h, if_neg apart]
  rw [readText, readText, read]

end

end Tree

end Phrasebook

namespace Phrasebook.Glob

open Phrasebook.Tree (Proper Shared)

theorem Found.enter_of_ne {here : Found} {name : String} (down : name ≠ upward) :
    here.enter name = ⟨here.place ++ [name], here.parts ++ [name]⟩ := by
  rw [Found.enter, if_neg (by simpa [upward] using down)]

inductive Step (tree : Tree) (last : Bool) : GlobPart → Found → Found → Prop
  | name {name : String} {here : Found}
      (there : tree.isFolder (here.enter name).place = true ∨
        last = true ∧ tree.isFile (here.enter name).place = true) :
      Step tree last (.name name) here (here.enter name)
  | wildcards {pattern : List Wildcard} {name : String} {here : Found}
      (child : name ∈ tree.children here.place)
      (accepted : Wildcard.accepts pattern name.toList = true)
      (inner : last = true ∨ tree.isFolder (here.place ++ [name]) = true) :
      Step tree last (.wildcards pattern) here (here.enter name)
  | anyFolders {folder : Path} {here : Found} (within : folder ∈ foldersWithin tree here.place) :
      Step tree last .anyFolders here ⟨folder, here.parts ++ folder.drop here.place.length⟩

section

variable {tree : Tree} {part : GlobPart} {rest : List GlobPart} {here found : Found}

theorem mem_select_nothing : found ∈ select tree (.nothing :: rest) here ↔ found = here := by
  rw [select, List.mem_singleton]

theorem mem_select_cons (some' : part ≠ .nothing) :
    found ∈ select tree (part :: rest) here ↔
      ∃ next, Step tree rest.isEmpty part here next ∧ found ∈ select tree rest next := by
  cases part with
  | nothing => exact absurd rfl some'
  | name name =>
    rw [select]
    constructor
    · intro h
      split at h
      · rename_i there
        simp only [Bool.or_eq_true, Bool.and_eq_true] at there
        exact ⟨_, .name there, h⟩
      · cases h
    · rintro ⟨_, step, h⟩
      cases step with
      | name there =>
        rw [if_pos (by simpa only [Bool.or_eq_true, Bool.and_eq_true] using there)]
        exact h
  | wildcards pattern =>
    simp only [select, List.mem_flatMap, List.mem_filter, Bool.and_eq_true, Bool.or_eq_true]
    constructor
    · rintro ⟨name, ⟨child, accepted, inner⟩, h⟩
      exact ⟨_, .wildcards child accepted inner, h⟩
    · rintro ⟨_, step, h⟩
      cases step with
      | wildcards child accepted inner => exact ⟨_, ⟨child, accepted, inner⟩, h⟩
  | anyFolders =>
    simp only [select, List.mem_flatMap]
    constructor
    · rintro ⟨folder, within, h⟩
      exact ⟨_, .anyFolders within, h⟩
    · rintro ⟨_, step, h⟩
      cases step with
      | anyFolders within => exact ⟨_, within, h⟩

theorem mem_select_anyFolders_iff {pattern : List Wildcard} {root : Path} :
    found ∈ select tree [.anyFolders, .wildcards pattern] ⟨root, []⟩ ↔
      ∃ folder ∈ foldersWithin tree root, ∃ name ∈ tree.children folder,
        Wildcard.accepts pattern name.toList = true ∧
          found = Found.enter ⟨folder, folder.drop root.length⟩ name := by
  have folders : GlobPart.anyFolders ≠ .nothing := nofun
  have names : GlobPart.wildcards pattern ≠ .nothing := nofun
  rw [mem_select_cons folders]
  constructor
  · intro ⟨inner, step, led⟩
    obtain ⟨next, last, led⟩ := (mem_select_cons names).1 led
    rw [select, List.mem_singleton] at led
    cases step with
    | @anyFolders folder _ within =>
      cases last with
      | @wildcards _ name _ child accepted _ =>
        exact ⟨folder, within, name, child, accepted, led⟩
  · intro ⟨folder, within, name, child, accepted, led⟩
    have last : found ∈ select tree [.wildcards pattern] ⟨folder, folder.drop root.length⟩ := by
      refine (mem_select_cons names).2 ⟨_, .wildcards child accepted (.inl rfl), ?_⟩
      rw [select, List.mem_singleton]
      exact led
    exact ⟨_, .anyFolders within, last⟩

end

section

variable {tree other : Tree} {last : Bool} {part : GlobPart} {here next : Found}

theorem child_ne (proper : tree.Proper) {folder : Path} {name : String}
    (h : name ∈ tree.children folder) : name ≠ upward := by
  rintro rfl
  have inside : upward ∈ folder ++ [upward] := by simp
  rcases Tree.mem_children_iff.1 h with file | inner
  · exact proper.of_isFile file inside
  · exact proper.of_isFolder inner inside

theorem Step.place_prefix (step : Step tree last part here next) (proper : tree.Proper)
    (down : part ≠ .name upward) : here.place <+: next.place := by
  cases step with
  | @name name here there =>
    rw [Found.enter_of_ne fun same => down (congrArg _ same)]
    exact List.prefix_append _ _
  | wildcards child accepted inner =>
    rw [Found.enter_of_ne (child_ne proper child)]
    exact List.prefix_append _ _
  | anyFolders within => exact Tree.prefix_of_mem_foldersWithin within

theorem Step.of_shared (step : Step tree last part here next) (proper : tree.Proper)
    (down : part ≠ .name upward) {place : Path} (shared : Shared tree other place)
    (towards : next.place <+: place) : Step other last part here next := by
  have folder := shared.above next.place towards
  cases step with
  | @name name here there =>
    refine .name ?_
    rcases there with inner | ⟨last, -⟩
    · exact .inl (folder ▸ inner)
    · by_cases same : place = (here.enter name).place
      · exact .inr ⟨last, same ▸ shared.there⟩
      · exact .inl (Tree.isFolder_of_isFile shared.there towards same)
  | @wildcards pattern name here child accepted inner =>
    rw [Found.enter_of_ne (child_ne proper child)] at folder towards
    refine .wildcards (Tree.mem_children_iff.2 ?_) accepted (inner.imp_right (folder ▸ ·))
    by_cases same : place = here.place ++ [name]
    · exact .inl (same ▸ shared.there)
    · exact .inr (Tree.isFolder_of_isFile shared.there towards same)
  | @anyFolders inner here within =>
    refine .anyFolders (Tree.mem_foldersWithin_iff.2 ?_)
    exact (Tree.mem_foldersWithin_iff.1 within).imp_right fun ⟨inner, inside⟩ =>
      ⟨folder ▸ inner, inside⟩

end

def Downward (parts : List GlobPart) : Prop := ∀ part ∈ parts, part ≠ .name upward

theorem eq_of_ofText {text name : String} (h : GlobPart.ofText text = .ok (.name name)) :
    text = name := by
  unfold GlobPart.ofText at h
  dsimp only at h
  split at h
  · cases h
  · split at h
    · cases h
    · split at h
      · cases h
      · cases h
        rfl

theorem downward_of_parse {pattern : String} {parts : List GlobPart}
    (down : upward ∉ Path.ofText pattern) (h : parse pattern = .ok parts) : Downward parts := by
  unfold parse at h
  by_cases empty : pattern.isEmpty = true
  · rw [if_pos empty] at h
    cases h
  rw [if_neg empty] at h
  by_cases absolute : Path.isAbsolute pattern = true
  · rw [if_pos absolute] at h
    cases h
  rw [if_neg absolute] at h
  cases read : (Path.ofText pattern).mapM GlobPart.ofText with
  | error fault =>
    rw [read] at h
    cases h
  | ok found =>
    rw [read] at h
    have plain : Downward found := by
      rintro part member rfl
      obtain ⟨text, given, made⟩ := (mem_mapM_iff read).1 member
      exact down (eq_of_ofText made ▸ given)
    simp only [bind, Except.bind, pure, Except.pure] at h
    split at h
    · split at h
      · cases h
      · cases h
        intro part member
        rcases List.mem_append.1 member with member | member
        · exact plain part member
        · rw [List.mem_singleton.1 member]
          nofun
    · split at h
      · cases h
      · cases h
        exact plain

section

variable {tree other : Tree} {parts : List GlobPart} {here found : Found}

theorem place_prefix_of_mem_select (proper : tree.Proper) (down : Downward parts)
    (h : found ∈ select tree parts here) : here.place <+: found.place := by
  induction parts generalizing here with
  | nil =>
    rw [select, List.mem_singleton] at h
    rw [h]
  | cons part rest ih =>
    obtain ⟨first, others⟩ := List.forall_mem_cons.1 down
    by_cases nothing : part = .nothing
    · subst nothing
      rw [mem_select_nothing.1 h]
    · obtain ⟨next, step, h⟩ := (mem_select_cons nothing).1 h
      exact (step.place_prefix proper first).trans (ih others h)

theorem mem_select_of_shared (proper : tree.Proper) (down : Downward parts)
    (h : found ∈ select tree parts here) (shared : Shared tree other found.place) :
    found ∈ select other parts here := by
  induction parts generalizing here with
  | nil => exact h
  | cons part rest ih =>
    obtain ⟨first, others⟩ := List.forall_mem_cons.1 down
    by_cases nothing : part = .nothing
    · subst nothing
      exact mem_select_nothing.2 (mem_select_nothing.1 h)
    · obtain ⟨next, step, h⟩ := (mem_select_cons nothing).1 h
      -- The file lies below every place on the way, so this step is one towards it.
      have towards := place_prefix_of_mem_select proper others h
      exact (mem_select_cons nothing).2
        ⟨next, step.of_shared proper first shared towards, ih others h⟩

end

structure Walked (tree : Tree) (root : Path) (found : Found) : Prop where
  place : found.place = Path.resolve (root ++ found.parts)
  folders : ∀ place ∈ Path.placesFrom [] (root ++ found.parts), tree.isFolder place = true

section

variable {tree : Tree} {root : Path} {last : Bool} {part : GlobPart} {here next : Found}

theorem Walked.passable (walked : Walked tree root here) : tree.Passable (root ++ here.parts) := by
  intro place member
  apply walked.folders
  rcases List.eq_nil_or_concat' (root ++ here.parts) with empty | ⟨front, name, whole⟩
  · rw [Path.passed, empty] at member
    cases member
  · rw [Path.passed, whole, List.dropLast_concat] at member
    rw [whole, Path.placesFrom_append]
    exact List.mem_append_left _ member

theorem Walked.enter (walked : Walked tree root here) (name : String) :
    (here.enter name).place = Path.resolve (root ++ (here.enter name).parts) ∧
      tree.Passable (root ++ (here.enter name).parts) ∧
      (tree.isFolder (here.enter name).place = true → Walked tree root (here.enter name)) := by
  have place : (here.enter name).place = Path.resolve (root ++ (here.enter name).parts) := by
    rw [Found.enter, ← List.append_assoc, Path.resolve, List.foldl_append, ← Path.resolve,
      ← walked.place]
    rfl
  refine ⟨place, ?_, fun folder => ⟨place, ?_⟩⟩
  · intro place member
    rw [Path.passed, Found.enter, ← List.append_assoc, List.dropLast_concat] at member
    exact walked.folders place member
  · intro other member
    rw [Found.enter, ← List.append_assoc, Path.placesFrom_append, ← Path.resolve,
      ← walked.place] at member
    rcases List.mem_append.1 member with member | member
    · exact walked.folders other member
    · rw [Path.placesFrom, Path.placesFrom, List.mem_singleton] at member
      exact member ▸ folder

theorem Step.walked (step : Step tree last part here next) (proper : tree.Proper)
    (walked : Walked tree root here) :
    next.place = Path.resolve (root ++ next.parts) ∧ tree.Passable (root ++ next.parts) ∧
      (last = true ∨ Walked tree root next) := by
  cases step with
  | @name name here there =>
    obtain ⟨place, passable, onward⟩ := walked.enter name
    exact ⟨place, passable, there.symm.imp And.left onward⟩
  | @wildcards pattern name here child accepted inner =>
    obtain ⟨place, passable, onward⟩ := walked.enter name
    refine ⟨place, passable, inner.imp_right fun folder => onward ?_⟩
    rw [Found.enter_of_ne (child_ne proper child)]
    exact folder
  | @anyFolders folder here within =>
    -- Below the place reached so far no name leads back up.
    obtain ⟨rest, rfl, down, folders⟩ : ∃ rest, folder = here.place ++ rest ∧ upward ∉ rest ∧
        ∀ place ∈ Path.placesFrom here.place rest, tree.isFolder place = true := by
      rcases Tree.mem_foldersWithin_iff.1 within with rfl | ⟨inner, ⟨rest, rfl⟩, -⟩
      · exact ⟨[], (List.append_nil _).symm, List.not_mem_nil, by simp [Path.placesFrom]⟩
      · have down : upward ∉ rest := fun member =>
          proper.of_isFolder inner (List.mem_append_right _ member)
        exact ⟨rest, rfl, down, fun place member =>
          Tree.isFolder_of_prefix inner (Path.prefix_of_mem_placesFrom down member)⟩
    have next : Walked tree root
        ⟨here.place ++ rest, here.parts ++ (here.place ++ rest).drop here.place.length⟩ := by
      rw [List.drop_left]
      refine ⟨?_, fun place member => ?_⟩
      · rw [← List.append_assoc, Path.resolve, List.foldl_append, ← Path.resolve, ← walked.place,
          Path.foldl_enter_of_not_mem down]
      · rw [← List.append_assoc, Path.placesFrom_append, ← Path.resolve, ← walked.place] at member
        exact (List.mem_append.1 member).elim (walked.folders place) (folders place)
    exact ⟨next.place, next.passable, .inr next⟩

/-- What a pattern leads to is where its parts lead, and nothing but folders lies on the way. -/
theorem passable_of_mem_select (proper : tree.Proper) {parts : List GlobPart} {found : Found}
    (walked : Walked tree root here) (h : found ∈ select tree parts here) :
    found.place = Path.resolve (root ++ found.parts) ∧ tree.Passable (root ++ found.parts) := by
  induction parts generalizing here with
  | nil =>
    rw [select, List.mem_singleton] at h
    rw [h]
    exact ⟨walked.place, walked.passable⟩
  | cons part rest ih =>
    by_cases nothing : part = .nothing
    · subst nothing
      rw [mem_select_nothing.1 h]
      exact ⟨walked.place, walked.passable⟩
    · obtain ⟨next, step, h⟩ := (mem_select_cons nothing).1 h
      obtain ⟨place, passable, onward⟩ := step.walked proper walked
      rcases onward with last | onward
      · rw [List.isEmpty_iff.1 last, select, List.mem_singleton] at h
        rw [h]
        exact ⟨place, passable⟩
      · exact ih onward h

theorem walked_root (proper : tree.Proper) (folder : tree.isFolder root = true) :
    Walked tree root ⟨root, []⟩ := by
  have down := proper.of_isFolder folder
  refine ⟨?_, fun place member => ?_⟩
  · rw [List.append_nil, Path.resolve_of_not_mem down]
  · rw [List.append_nil] at member
    exact Tree.isFolder_of_prefix folder (Path.prefix_of_mem_placesFrom down member)

end

end Phrasebook.Glob
