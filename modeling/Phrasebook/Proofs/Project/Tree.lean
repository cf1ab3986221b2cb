import Mathlib
import Phrasebook.Project.Tree

namespace Phrasebook.Path

def placesFrom (here : Path) : List String → List Path
  | [] => []
  | part :: parts => here.enter part :: placesFrom (here.enter part) parts

def passed (path : Path) : List Path := placesFrom [] path.dropLast

theorem foldl_enter_mem_placesFrom (here : Path) {parts : List String} (h : parts ≠ []) :
    parts.foldl enter here ∈ placesFrom here parts := by
  induction parts generalizing here with
  | nil => exact absurd rfl h
  | cons part parts ih =>
    cases parts with
    | nil => exact List.mem_cons_self
    | cons next parts => exact List.mem_cons_of_mem _ (ih (here.enter part) (by simp))

theorem prefix_of_prefix_enter {place here : Path} {part : String} (h : place <+: here.enter part) :
    place <+: here ∨ place = here.enter part := by
  unfold enter at h ⊢
  split
  · rename_i up
    rw [if_pos up] at h
    exact .inl (h.trans (List.dropLast_prefix here))
  · rename_i up
    rw [if_neg up] at h
    rcases List.prefix_concat_iff.1 h with same | inside
    · exact .inr same
    · exact .inl inside

theorem resolve_of_getLast? {path : Path} {name : String} (h : path.getLast? = some name) :
    path.resolve = (resolve path.dropLast).enter name := by
  obtain ⟨front, rfl⟩ := List.getLast?_eq_some_iff.1 h
  simp [resolve]

end Phrasebook.Path

namespace Phrasebook.Tree

open Phrasebook.Path (placesFrom)

theorem isFolder_of_prefix {tree : Tree} {place outer : Path} (h : tree.isFolder place = true)
    (inside : outer <+: place) : tree.isFolder outer = true := by
  simp only [isFolder, Bool.or_eq_true, List.any_eq_true, List.isEmpty_iff,
    List.isPrefixOf_iff_prefix, isInside, Bool.and_eq_true, bne_iff_ne] at h ⊢
  rcases h with (rfl | ⟨folder, member, below⟩) | ⟨file, member, below, other⟩
  · exact .inl (.inl (List.prefix_nil.1 inside))
  · exact .inl (.inr ⟨folder, member, inside.trans below⟩)
  · refine .inr ⟨file, member, inside.trans below, fun same => other ?_⟩
    exact (below.eq_of_length_le (by rw [same]; exact inside.length_le)).symm

theorem isFile_eq_false_iff {tree : Tree} {place : Path} :
    tree.isFile place = false ↔ tree.content? place = none := by simp [isFile]

/-- Nothing but folders on the way. -/
def Passable (tree : Tree) (path : Path) : Prop := ∀ place ∈ path.passed, tree.isFolder place = true

def Unblocked (tree : Tree) (path : Path) : Prop := ∀ place ∈ path.passed, tree.isFile place = false

theorem locateFrom_of_passable {tree : Tree} {here : Path} {parts : List String}
    (h : ∀ place ∈ placesFrom here parts.dropLast, tree.isFolder place = true) :
    tree.locateFrom here parts = .ok (parts.foldl Path.enter here) := by
  induction parts generalizing here with
  | nil => rfl
  | cons part parts ih =>
    cases parts with
    | nil => simp [locateFrom]
    | cons next parts =>
      rw [List.dropLast_cons_cons] at h
      have first := h _ List.mem_cons_self
      rw [locateFrom, first, Bool.or_true, if_pos rfl]
      exact ih fun place member => h place (List.mem_cons_of_mem _ member)

theorem passable_of_locateFrom {tree : Tree} {here target : Path} {parts : List String}
    (h : tree.locateFrom here parts = .ok target) :
    ∀ place ∈ placesFrom here parts.dropLast, tree.isFolder place = true := by
  induction parts generalizing here with
  | nil => simp [placesFrom]
  | cons part parts ih =>
    cases parts with
    | nil => simp [placesFrom]
    | cons next parts =>
      rw [locateFrom] at h
      split at h
      · rename_i folder
        intro place member
        rw [List.dropLast_cons_cons] at member
        rcases List.mem_cons.1 member with rfl | member
        · simpa using folder
        · exact ih h place member
      · split at h <;> cases h

theorem locate_eq_ok_iff {tree : Tree} {path target : Path} :
    tree.locate path = .ok target ↔ tree.Passable path ∧ target = path.resolve := by
  constructor
  · intro h
    have open' := passable_of_locateFrom h
    rw [locate, locateFrom_of_passable open'] at h
    exact ⟨open', (Except.ok.inj h).symm⟩
  · rintro ⟨h, rfl⟩
    exact locateFrom_of_passable h

theorem read_eq_ok_iff {tree : Tree} {path : Path} {bytes : List UInt8} :
    tree.read path = .ok bytes ↔
      tree.Passable path ∧ tree.isFolder path.resolve = false ∧
        tree.content? path.resolve = some bytes := by
  constructor
  · intro h
    unfold read at h
    cases hl : tree.locate path with
    | error fault => simp [hl, Bind.bind, Except.bind] at h
    | ok target =>
      obtain ⟨passable, rfl⟩ := locate_eq_ok_iff.1 hl
      simp only [hl, Bind.bind, Except.bind] at h
      split at h
      · cases h
      · rename_i folder
        split at h
        · rename_i content hc
          cases h
          exact ⟨passable, by simpa using folder, hc⟩
        · cases h
  · rintro ⟨passable, folder, content⟩
    simp [read, locate_eq_ok_iff.2 ⟨passable, rfl⟩, folder, content, Bind.bind, Except.bind,
      Pure.pure, Except.pure]

theorem unblocked_of_settleFrom {tree : Tree} {made : Bool} {here target : Path}
    {parts : List String} (h : tree.settleFrom made here parts = .ok target) :
    ∀ place ∈ placesFrom here parts, tree.isFile place = false := by
  induction parts generalizing made here with
  | nil => simp [placesFrom]
  | cons part parts ih =>
    rw [settleFrom] at h
    split at h
    · cases h
    · rename_i file
      intro place member
      rcases List.mem_cons.1 member with rfl | member
      · simpa using file
      · exact ih h place member

theorem settleFrom_of_unblocked {tree : Tree} (made : Bool) {here : Path} {parts : List String}
    (h : ∀ place ∈ placesFrom here parts, tree.isFile place = false) :
    tree.settleFrom made here parts = .ok (parts.foldl Path.enter here) := by
  induction parts generalizing made here with
  | nil => rfl
  | cons part parts ih =>
    have first := h _ List.mem_cons_self
    rw [settleFrom, first, if_neg (by simp)]
    exact ih _ fun place member => h place (List.mem_cons_of_mem _ member)

theorem wayFrom_of_unblocked {tree : Tree} {here : Path} {parts : List String}
    (h : ∀ place ∈ placesFrom here parts, tree.isFile place = false) :
    tree.wayFrom here parts = placesFrom here parts := by
  induction parts generalizing here with
  | nil => rfl
  | cons part parts ih =>
    rw [wayFrom, h _ List.mem_cons_self, if_neg (by simp), placesFrom,
      ih fun place member => h place (List.mem_cons_of_mem _ member)]

theorem isFile_of_mem_wayFrom {tree : Tree} {here place : Path} {parts : List String}
    (h : place ∈ tree.wayFrom here parts) : tree.isFile place = false := by
  induction parts generalizing here with
  | nil => cases h
  | cons part parts ih =>
    rw [wayFrom] at h
    split at h
    · cases h
    · rename_i file
      rcases List.mem_cons.1 h with rfl | h
      · simpa using file
      · exact ih h

theorem prefix_mem_wayFrom {tree : Tree} {here place outer : Path} {parts : List String}
    (h : place ∈ tree.wayFrom here parts) (inside : outer <+: place) :
    outer <+: here ∨ outer ∈ tree.wayFrom here parts := by
  induction parts generalizing here with
  | nil => cases h
  | cons part parts ih =>
    rw [wayFrom] at h ⊢
    split at h
    · cases h
    · rename_i file
      rw [if_neg file]
      have first : outer <+: here.enter part →
          outer <+: here ∨ outer ∈ here.enter part :: tree.wayFrom (here.enter part) parts := by
        intro before
        rcases Path.prefix_of_prefix_enter before with before | rfl
        · exact .inl before
        · exact .inr List.mem_cons_self
      rcases List.mem_cons.1 h with rfl | h
      · exact first inside
      · rcases ih h with before | passed
        · exact first before
        · exact .inr (List.mem_cons_of_mem _ passed)

theorem isFolder_makeWay_iff {tree : Tree} {path place : Path} :
    (tree.makeWay path).isFolder place = true ↔
      tree.isFolder place = true ∨ place ∈ tree.wayFrom [] path.dropLast := by
  constructor
  · intro h
    by_cases before : tree.isFolder place = true
    · exact .inl before
    simp only [isFolder, makeWay, List.any_append, Bool.or_eq_true] at h before
    rcases h with (h | h | h) | h
    · exact absurd (.inl (.inl h)) before
    · exact absurd (.inl (.inr h)) before
    · obtain ⟨folder, member, inside⟩ := List.any_eq_true.1 h
      rw [List.isPrefixOf_iff_prefix] at inside
      rcases prefix_mem_wayFrom (List.mem_filter.1 member).1 inside with outside | passed
      · exact absurd (.inl (.inl (by simp [List.prefix_nil.1 outside]))) before
      · exact .inr passed
    · exact absurd (.inr h) before
  · intro h
    by_cases before : tree.isFolder place = true
    · simp only [isFolder, Bool.or_eq_true] at before
      simp only [isFolder, makeWay, List.any_append, Bool.or_eq_true]
      rcases before with (h | h) | h
      · exact .inl (.inl h)
      · exact .inl (.inr (.inl h))
      · exact .inr h
    · have member : place ∈ (tree.wayFrom [] path.dropLast).filter fun folder =>
          !tree.isFolder folder :=
        List.mem_filter.2 ⟨h.resolve_left before, by simpa using before⟩
      simp only [isFolder, makeWay, List.any_append, Bool.or_eq_true]
      exact .inl (.inr (.inr (List.any_eq_true.2 ⟨place, member, by simp⟩)))

theorem content?_put {tree : Tree} {path place : Path} {bytes : List UInt8} :
    (tree.put path bytes).content? place =
      if place = path then some bytes else tree.content? place := by
  obtain ⟨files, folders⟩ := tree
  simp only [content?, put]
  induction files with
  | nil =>
    by_cases h : place = path
    · simp [putFile, h]
    · have hb : (place == path) = false := by simpa using h
      simp [putFile, List.lookup, hb, h]
  | cons file files ih =>
    by_cases hf : file.1 = path
    · by_cases h : place = path
      · simp [putFile, hf, h]
      · have hb : (place == path) = false := by simpa using h
        simp [putFile, hf, List.lookup, hb, h]
    · have hf' : (file.1 == path) = false := by simpa using hf
      simp only [putFile, hf', Bool.false_eq_true, if_false, List.lookup]
      by_cases h : place = file.1
      · subst h
        simp [hf]
      · have hb : (place == file.1) = false := by simpa using h
        simp only [hb, ih]

theorem any_putFile (p : Path → Bool) (path : Path) (bytes : List UInt8)
    (files : List (Path × List UInt8)) :
    (putFile path bytes files).any (fun file => p file.1) =
      (files.any (fun file => p file.1) || p path) := by
  induction files with
  | nil => simp [putFile]
  | cons file files ih =>
    by_cases hf : file.1 = path
    · subst hf
      cases h : p file.1 <;> simp [putFile, h]
    · have hf' : (file.1 == path) = false := by simpa using hf
      simp only [putFile, hf', Bool.false_eq_true, if_false, List.any_cons, ih, Bool.or_assoc]

theorem isFolder_put {tree : Tree} {path place : Path} {bytes : List UInt8} :
    (tree.put path bytes).isFolder place = (tree.isFolder place || isInside path place) := by
  simp only [isFolder, put, any_putFile fun file => isInside file place, Bool.or_assoc]

theorem putFile_of_lookup {path : Path} {bytes : List UInt8} {files : List (Path × List UInt8)}
    (h : files.lookup path = some bytes) : putFile path bytes files = files := by
  induction files with
  | nil => cases h
  | cons file files ih =>
    by_cases hf : file.1 = path
    · subst hf
      simp only [List.lookup, BEq.rfl, Option.some.injEq] at h
      simp [putFile, ← h]
    · have hf' : (file.1 == path) = false := by simpa using hf
      have hb : (path == file.1) = false := by simpa using fun e => hf e.symm
      simp only [List.lookup, hb] at h
      simp [putFile, hf', ih h]

end Phrasebook.Tree
