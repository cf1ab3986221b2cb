import Mathlib.Data.List.Sort
import Phrasebook.Extraction.Run
import Phrasebook.Proofs.Attempts
import Phrasebook.Proofs.Project.Braces
import Phrasebook.Proofs.Project.Glob

namespace Phrasebook.Selection

theorem lePath_total (a b : Path) : (lePath a b || lePath b a) = true := by
  induction a generalizing b with
  | nil => simp [lePath]
  | cons x a ih =>
    cases b with
    | nil => simp [lePath]
    | cons y b =>
      have others := ih b
      rcases lt_trichotomy x y with less | rfl | more
      · simp [lePath, less]
      · simpa [lePath] using others
      · simp [lePath, more]

theorem lePath_cons_iff {x y : String} {a b : Path} :
    lePath (x :: a) (y :: b) = true ↔ x < y ∨ x = y ∧ lePath a b = true := by simp [lePath]

theorem lePath_trans {a b c : Path} (first : lePath a b = true) (second : lePath b c = true) :
    lePath a c = true := by
  induction a generalizing b c with
  | nil => rfl
  | cons x a ih =>
    cases b with
    | nil => cases first
    | cons y b =>
      cases c with
      | nil => cases second
      | cons z c =>
        rw [lePath_cons_iff] at first second ⊢
        rcases first with first | ⟨rfl, first⟩
        · rcases second with second | ⟨rfl, -⟩
          · exact .inl (lt_trans first second)
          · exact .inl first
        · exact second.imp_right fun ⟨same, second⟩ => ⟨same, ih first second⟩

theorem lePath_antisymm {a b : Path} (first : lePath a b = true) (second : lePath b a = true) :
    a = b := by
  induction a generalizing b with
  | nil =>
    cases b with
    | nil => rfl
    | cons y b => cases second
  | cons x a ih =>
    cases b with
    | nil => cases first
    | cons y b =>
      rw [lePath_cons_iff] at first second
      rcases first with less | ⟨rfl, first⟩
      · rcases second with more | ⟨rfl, -⟩
        · exact absurd less (lt_asymm more)
        · exact absurd less (lt_irrefl _)
      · rw [ih first (second.resolve_left (lt_irrefl _)).2]

theorem nodup_eraseDups {α : Type} [BEq α] [LawfulBEq α] (items : List α) :
    items.eraseDups.Nodup := by
  cases items with
  | nil => simp
  | cons a items =>
    rw [List.eraseDups_cons, List.nodup_cons]
    refine ⟨?_, nodup_eraseDups _⟩
    simp [List.mem_eraseDups]
termination_by items.length
decreasing_by exact Nat.lt_succ_of_le (List.length_filter_le _ items)

def arranged (paths : List Path) : List Path := paths.eraseDups.mergeSort lePath

theorem mem_arranged {paths : List Path} {path : Path} : path ∈ arranged paths ↔ path ∈ paths := by
  rw [arranged, List.mem_mergeSort, List.mem_eraseDups]

theorem nodup_arranged (paths : List Path) : (arranged paths).Nodup :=
  (List.mergeSort_perm _ _).nodup_iff.2 (nodup_eraseDups paths)

theorem pairwise_arranged (paths : List Path) :
    (arranged paths).Pairwise fun a b => lePath a b = true := by
  have trans : ∀ a b c, lePath a b = true → lePath b c = true → lePath a c = true :=
    fun _ _ _ => lePath_trans
  exact List.pairwise_mergeSort trans lePath_total _

theorem arranged_congr {paths others : List Path} (same : ∀ path, path ∈ paths ↔ path ∈ others) :
    arranged paths = arranged others := by
  refine List.Perm.eq_of_pairwise (fun _ _ _ _ => lePath_antisymm) (pairwise_arranged paths)
    (pairwise_arranged others) ?_
  refine (List.perm_ext_iff_of_nodup (nodup_arranged paths) (nodup_arranged others)).2 fun path => ?_
  rw [mem_arranged, mem_arranged, same]

/-- The patterns without groups that some patterns stand for. -/
def patterns (includes : List String) : List String :=
  includes.flatMap fun raw => (Braces.expand raw.toList).map String.ofList

def parsed (includes : List String) : Except GlobFault (List (String × List GlobPart)) :=
  (patterns includes).mapM fun pattern => (Glob.parse pattern).map (pattern, ·)

def selected (tree : Tree) (root : Path) (excludes : List String)
    (pattern : String × List GlobPart) : List Path :=
  ((if tree.isFolder root then Glob.select tree pattern.2 ⟨root, []⟩ else []).filter fun f =>
    tree.isFile f.place && (namesHidden pattern.1 || !isHidden f.parts) &&
      !isExcluded (Path.toText f.parts) excludes).map (·.parts)

theorem enumerate_eq (tree : Tree) (root : String) (includes excludes : List String) :
    enumerate tree root includes excludes =
      (parsed includes).map fun patterns =>
        (arranged (patterns.flatMap (selected tree (Path.ofText root).resolve excludes))).map
          ((Path.ofText root).resolve ++ ·) := by
  have one : ∀ pattern, selectOne tree (Path.ofText root).resolve excludes pattern =
      ((Glob.parse pattern).map (pattern, ·)).map
        (selected tree (Path.ofText root).resolve excludes) := by
    intro pattern
    unfold selectOne Glob.run
    cases Glob.parse pattern <;> rfl
  unfold enumerate parsed
  simp only [funext one, mapM_map]
  rw [← patterns]
  cases (patterns includes).mapM fun pattern => (Glob.parse pattern).map (pattern, ·) with
  | error fault => rfl
  | ok found => simp only [List.flatMap_def, arranged, Except.map, bind, Except.bind, pure, Except.pure]

theorem patterns_single {pattern : String} (plain : '\x7b' ∉ pattern.toList) :
    patterns [pattern] = [pattern] := by
  rw [patterns, List.flatMap_singleton, Braces.expand_of_not_mem plain, List.map_singleton,
    String.ofList_toList]

/-- One pattern without groups in the working folder, if what it selects is known and in order. -/
theorem enumerate_single {tree : Tree} {pattern : String} {excludes : List String} {paths : List Path}
    (plain : '\x7b' ∉ pattern.toList) (found : selectOne tree [] excludes pattern = .ok paths)
    (once : paths.eraseDups = paths) (ordered : paths.Pairwise fun a b => lePath a b = true) :
    enumerate tree "." [pattern] excludes = .ok paths := by
  have place : (Path.ofText ".").resolve = [] := by decide
  have single := patterns_single plain
  rw [patterns] at single
  unfold enumerate
  rw [single, place]
  simp [found, Bind.bind, Except.bind, once, List.mergeSort_of_pairwise ordered, Pure.pure, Except.pure]

theorem mem_selected_iff {tree : Tree} {root : Path} {excludes : List String}
    {pattern : String × List GlobPart} {path : Path} :
    path ∈ selected tree root excludes pattern ↔
      tree.isFolder root = true ∧ ∃ found ∈ Glob.select tree pattern.2 ⟨root, []⟩,
        (tree.isFile found.place = true ∧
          (namesHidden pattern.1 || !isHidden found.parts) = true ∧
          isExcluded (Path.toText found.parts) excludes = false) ∧ found.parts = path := by
  rw [selected, List.mem_map]
  by_cases folder : tree.isFolder root = true
  · rw [if_pos folder]
    simp only [List.mem_filter, Bool.and_eq_true, Bool.not_eq_true', folder, true_and, and_assoc]
  · simp [folder]

def Downward (includes : List String) : Prop :=
  ∀ pattern ∈ patterns includes, upward ∉ Path.ofText pattern

theorem downward_of_parsed {includes : List String} (down : Downward includes)
    {found : List (String × List GlobPart)} (h : parsed includes = .ok found)
    {pattern : String × List GlobPart} (member : pattern ∈ found) : Glob.Downward pattern.2 := by
  obtain ⟨text, given, made⟩ := (mem_mapM_iff h).1 member
  obtain ⟨parts, read, rfl⟩ := map_eq_ok_iff.1 made
  exact Glob.downward_of_parse (down text given) read

section

variable {tree after : Tree} {path : Path} {bytes : List UInt8}

theorem mem_selected_of_shared {other : Tree} (proper : tree.Proper) {root : Path}
    {excludes : List String} {pattern : String × List GlobPart} (down : Glob.Downward pattern.2)
    {file : Path} (h : file ∈ selected tree root excludes pattern)
    (shared : tree.isFile (root ++ file).resolve = true → tree.Shared other (root ++ file).resolve) :
    file ∈ selected other root excludes pattern := by
  rw [mem_selected_iff] at h ⊢
  obtain ⟨folder, found, led, ⟨there, rest⟩, rfl⟩ := h
  have place := (Glob.passable_of_mem_select proper (Glob.walked_root proper folder) led).1
  rw [← place] at shared
  -- The root itself is one of the folders that the file lies in.
  have both := shared there
  have below := Glob.place_prefix_of_mem_select proper down led
  exact ⟨both.above root below ▸ folder, found, Glob.mem_select_of_shared proper down led both,
    ⟨both.there, rest⟩, rfl⟩

theorem passable_of_mem_enumerate (proper : tree.Proper) {root : String}
    {includes excludes : List String} {files : List Path}
    (h : enumerate tree root includes excludes = .ok files) {file : Path} (member : file ∈ files) :
    tree.Passable file ∧ tree.isFile file.resolve = true := by
  rw [enumerate_eq] at h
  obtain ⟨found, -, rfl⟩ := map_eq_ok_iff.1 h
  obtain ⟨parts, listed, rfl⟩ := List.mem_map.1 member
  obtain ⟨pattern, -, chosen⟩ := List.mem_flatMap.1 (mem_arranged.1 listed)
  obtain ⟨folder, f, led, ⟨there, -⟩, rfl⟩ := mem_selected_iff.1 chosen
  obtain ⟨place, passable⟩ := Glob.passable_of_mem_select proper (Glob.walked_root proper folder) led
  exact ⟨passable, place ▸ there⟩

theorem enumerate_of_write (proper : tree.Proper) (h : tree.write path bytes = .ok after)
    {root : String} {includes excludes : List String} (down : Downward includes)
    (apart : ∀ files, enumerate after root includes excludes = .ok files →
      ∀ file ∈ files, file.resolve ≠ path.resolve) :
    enumerate after root includes excludes = enumerate tree root includes excludes := by
  rw [enumerate_eq] at apart ⊢
  rw [enumerate_eq]
  cases known : parsed includes with
  | error fault => rfl
  | ok found =>
    rw [known] at apart
    have apart := apart _ rfl
    have proper' := proper.of_write h
    simp only [Except.map, Except.ok.injEq]
    congr 1
    apply arranged_congr
    intro file
    rw [List.mem_flatMap, List.mem_flatMap]
    refine exists_congr fun pattern => and_congr_right fun member => ?_
    have down := downward_of_parsed down known member
    constructor
    · -- Only the file written can be new, and it is not among those selected.
      intro chosen
      refine mem_selected_of_shared proper' down chosen fun there => ?_
      have listed := mem_arranged.2 (List.mem_flatMap.2 ⟨pattern, member, chosen⟩)
      have other := apart _ (List.mem_map_of_mem listed)
      exact (Tree.shared_of_write h (((Tree.isFile_write_iff h).1 there).resolve_left other)).symm
    · exact fun chosen => mem_selected_of_shared proper down chosen (Tree.shared_of_write h)

end

end Phrasebook.Selection

namespace Phrasebook.Extraction

theorem fromFiles_congr {parsers : Script.Parsers} {tree other : Tree} {options : ExtractOptions}
    {registry : Registry} {place : String} {files : List Path}
    (same : ∀ file ∈ files, other.readText file = tree.readText file) :
    fromFiles parsers other options registry place files =
      fromFiles parsers tree options registry place files := by
  unfold fromFiles
  refine List.foldl_ext _ _ _ fun run file member => ?_
  have outcome : fromFile parsers other options (some run.registry) (place ++ file.toText) file =
      fromFile parsers tree options (some run.registry) (place ++ file.toText) file := by
    rw [fromFile, fromFile, same file member]
  simp only [FolderRun.step, outcome]

theorem fromFolder_of_write {tree after : Tree} {path : Path} {bytes : List UInt8}
    (proper : tree.Proper) (h : tree.write path bytes = .ok after) {options : ExtractOptions}
    {root : String}
    (again : Selection.enumerate after root options.includes options.excludes =
      Selection.enumerate tree root options.includes options.excludes)
    (apart : ∀ files, Selection.enumerate after root options.includes options.excludes = .ok files →
      ∀ file ∈ files, file.resolve ≠ path.resolve) (parsers : Script.Parsers) (registry : Registry)
    (place : String) :
    fromFolder parsers after options registry place root =
      fromFolder parsers tree options registry place root := by
  unfold fromFolder
  rw [again] at apart ⊢
  cases listed : Selection.enumerate tree root options.includes options.excludes with
  | error fault => rfl
  | ok files =>
    have same : fromFiles parsers after options registry place files =
        fromFiles parsers tree options registry place files := by
      refine fromFiles_congr fun file member => ?_
      obtain ⟨passable, there⟩ := Selection.passable_of_mem_enumerate proper listed member
      exact Tree.readText_of_write h passable there (apart files listed file member)
    simp only [bind, Except.bind, same]

end Phrasebook.Extraction
