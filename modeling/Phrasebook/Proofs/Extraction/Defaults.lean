import Phrasebook.Proofs.Extraction.Selection
import Phrasebook.Proofs.Project.Braces
import Phrasebook.Proofs.Project.Wildcard

namespace Phrasebook.Selection

theorem lt_of_lePath {a b : Path} (le : lePath a b = true) (ne : a ≠ b) : a < b := by
  induction a generalizing b with
  | nil =>
    cases b with
    | nil => exact absurd rfl ne
    | cons y b => exact List.nil_lt_cons y b
  | cons x a ih =>
    cases b with
    | nil => cases le
    | cons y b =>
      rw [List.cons_lt_cons_iff]
      rcases lePath_cons_iff.1 le with less | ⟨rfl, rest⟩
      · exact .inl less
      · exact .inr ⟨rfl, ih rest fun same => ne (same ▸ rfl)⟩

theorem append_lt_append {a b : Path} (front : Path) (lt : a < b) : front ++ a < front ++ b := by
  induction front with
  | nil => exact lt
  | cons x front ih => exact List.cons_lt_cons_iff.2 (.inr ⟨rfl, ih⟩)

theorem sorted_arranged (paths : List Path) : (arranged paths).Pairwise (· < ·) := by
  have both := (pairwise_arranged paths).and (nodup_arranged paths)
  exact both.imp fun ⟨le, ne⟩ => lt_of_lePath le ne

theorem sorted_of_enumerate {tree : Tree} {root : String} {includes excludes : List String}
    {files : List Path} (h : enumerate tree root includes excludes = .ok files) :
    files.Pairwise (· < ·) := by
  rw [enumerate_eq] at h
  obtain ⟨found, _, rfl⟩ := map_eq_ok_iff.1 h
  apply List.Pairwise.map _ _ (sorted_arranged _)
  intro a b lt
  exact append_lt_append _ lt

theorem isHidden_eq_false_iff {path : Path} :
    isHidden path = false ↔ ∀ part ∈ path, part.toList.head? ≠ some '.' := by
  simp [isHidden, startsWithDot]

theorem mem_selected_anyFolders_iff {tree : Tree} {root : Path} {excludes : List String}
    {text : String} (shown : namesHidden text = false) {pattern : List Wildcard} {path : Path} :
    path ∈ selected tree root excludes (text, [.anyFolders, .wildcards pattern]) ↔
      ∃ folders name, path = folders ++ [name] ∧ tree.isFile (root ++ path) = true ∧
        Wildcard.accepts pattern name.toList = true ∧ isHidden path = false ∧
        isExcluded (Path.toText path) excludes = false := by
  have down : ∀ {name : String} {folders : Path}, isHidden (folders ++ [name]) = false →
      name ≠ upward := by
    intro name folders visible up
    have undotted := isHidden_eq_false_iff.1 visible name (by simp)
    exact undotted (up ▸ by decide)
  simp only [mem_selected_iff, Glob.mem_select_anyFolders_iff, shown, Bool.false_or,
    Bool.not_eq_true']
  constructor
  · intro ⟨_, found, ⟨folder, within, name, _, accepted, led⟩, ⟨there, visible, kept⟩, same⟩
    subst led same
    obtain ⟨folders, rfl⟩ : root <+: folder := Tree.prefix_of_mem_foldersWithin within
    rw [List.drop_left] at there visible kept ⊢
    rw [Glob.Found.enter_of_ne (down visible), List.append_assoc] at there
    exact ⟨folders, name, rfl, there, accepted, visible, kept⟩
  · intro ⟨folders, name, whole, there, accepted, visible, kept⟩
    subst whole
    have led : Glob.Found.enter ⟨root ++ folders, (root ++ folders).drop root.length⟩ name =
        ⟨root ++ (folders ++ [name]), folders ++ [name]⟩ := by
      rw [Glob.Found.enter_of_ne (down visible), List.drop_left, List.append_assoc]
    have file : tree.isFile (root ++ folders ++ [name]) = true := by
      rw [List.append_assoc]
      exact there
    have folder : tree.isFolder (root ++ folders) = true := Tree.isFolder_of_isFile_concat file
    have within : root ++ folders ∈ Glob.foldersWithin tree root :=
      Tree.mem_foldersWithin_of_isFolder folder
    have child : name ∈ tree.children (root ++ folders) := Tree.mem_children_iff.2 (.inl file)
    refine ⟨Tree.isFolder_of_prefix folder (List.prefix_append _ _), _,
      ⟨_, within, name, child, accepted, rfl⟩, ?_⟩
    rw [led]
    exact ⟨⟨there, visible, kept⟩, rfl⟩

theorem isExcluded_folders_iff {folders : List String} {text : String}
    (plain : ∀ folder ∈ folders, ∀ c ∈ folder.toList, c ∉ ['*', '?', '[', '\x7b', '\x7d']) :
    isExcluded text (folders.map (· ++ "/**")) = true ↔
      ∃ folder ∈ folders, (folder ++ "/").toList <+: text.toList := by
  rw [isExcluded, List.any_map, List.any_eq_true]
  refine exists_congr fun folder => and_congr_right fun member => ?_
  have wild : Wildcard.Plain folder.toList := by
    intro c inside
    have special := plain folder member c inside
    simp only [List.mem_cons, not_or] at special ⊢
    exact ⟨special.1, special.2.1, special.2.2.1, List.not_mem_nil⟩
  have whole : (folder ++ "/**").toList = folder.toList ++ ['/', '*', '*'] := String.toList_append
  have single : Braces.expand (folder ++ "/**").toList = [(folder ++ "/**").toList] := by
    apply Braces.expand_of_not_mem
    rw [whole]
    intro inside
    rcases List.mem_append.1 inside with inside | inside
    · exact plain folder member _ inside (by decide)
    · exact absurd inside (by decide)
  rw [Function.comp_apply, single, List.any_cons, List.any_nil, Bool.or_false, whole,
    matchesWildcards_folder_iff wild, String.toList_append]
  rfl

/-- How the names of scripts and components end. -/
def endings : List String := [".js", ".jsx", ".ts", ".tsx", ".mjs", ".cjs", ".svelte", ".vue"]

def partsFor (ending : String) : List GlobPart :=
  [.anyFolders, .wildcards (.run :: ending.toList.map .char)]

theorem patterns_default :
    patterns [ExtractOptions.defaultInclude] = endings.map ("**/*" ++ ·) := by
  have group : Braces.firstGroup? ExtractOptions.defaultInclude.toList =
      some ⟨"**/*.".toList, "js,jsx,ts,tsx,mjs,cjs,svelte,vue".toList, []⟩ := by decide
  have choices : Text.splitAt ',' "js,jsx,ts,tsx,mjs,cjs,svelte,vue".toList =
      endings.map fun ending => ending.toList.drop 1 := by decide
  have single : ∀ ending ∈ endings,
      Braces.expand ("**/*.".toList ++ ending.toList.drop 1 ++ []) = [("**/*" ++ ending).toList] := by
    intro ending member
    rw [Braces.expand_of_not_mem (by revert ending; decide)]
    revert ending
    decide
  rw [patterns, List.flatMap_singleton, Braces.expand_of_firstGroup? group, choices,
    List.flatMap_map, List.flatMap_def, List.map_congr_left single, ← List.flatMap_def,
    ← List.map_eq_flatMap, List.map_map]
  exact List.map_congr_left fun ending _ => String.ofList_toList

theorem parsed_default :
    parsed [ExtractOptions.defaultInclude] =
      .ok (endings.map fun ending => ("**/*" ++ ending, partsFor ending)) := by
  rw [parsed, patterns_default]
  decide +kernel

theorem shown_default : ∀ ending ∈ endings, namesHidden ("**/*" ++ ending) = false := by decide

theorem mem_selected_default_iff {tree : Tree} {root : Path} {excludes : List String} {path : Path} :
    path ∈ (endings.map fun ending => ("**/*" ++ ending, partsFor ending)).flatMap
        (selected tree root excludes) ↔
      tree.isFile (root ++ path) = true ∧
        (∃ ending ∈ endings, ending.toList <:+ (Path.name path).toList) ∧
        isHidden path = false ∧ isExcluded (Path.toText path) excludes = false := by
  have named : ∀ folders name, Path.name (folders ++ [name]) = name := by simp [Path.name]
  rw [List.flatMap_map, List.mem_flatMap]
  constructor
  · intro ⟨ending, member, chosen⟩
    obtain ⟨folders, name, rfl, there, accepted, visible, kept⟩ :=
      (mem_selected_anyFolders_iff (shown_default ending member)).1 chosen
    refine ⟨there, ⟨ending, member, ?_⟩, visible, kept⟩
    rw [named]
    exact Wildcard.accepts_run_chars_iff.1 accepted
  · intro ⟨there, ⟨ending, member, ends⟩, visible, kept⟩
    refine ⟨ending, member, (mem_selected_anyFolders_iff (shown_default ending member)).2 ?_⟩
    rcases List.eq_nil_or_concat' path with rfl | ⟨folders, name, rfl⟩
    · -- The root has no name that could end so.
      have nameless : ∀ ending ∈ endings, ¬ ending.toList <:+ [] := by decide
      exact absurd ends (nameless ending member)
    · rw [named] at ends
      exact ⟨folders, name, rfl, there, Wildcard.accepts_run_chars_iff.2 ends, visible, kept⟩

/-- By default exactly those files are selected that lie below the root at any depth, end as scripts and
    components do, have no part that begins with a dot, and have no excluded folder before them; each is
    listed once, and the list is ordered by the parts of the paths. -/
theorem enumerate_default (tree : Tree) (root : String) (folders : List String)
    (plain : ∀ folder ∈ folders, ∀ c ∈ folder.toList, c ∉ ['*', '?', '[', '\x7b', '\x7d']) :
    ∃ files,
      enumerate tree root [ExtractOptions.defaultInclude] (folders.map (· ++ "/**")) = .ok files ∧
      files.Pairwise (· < ·) ∧
      ∀ file, file ∈ files ↔ ∃ path, file = (Path.ofText root).resolve ++ path ∧
        tree.isFile file = true ∧
        (∃ ending ∈ endings, ending.toList <:+ (Path.name path).toList) ∧
        (∀ part ∈ path, part.toList.head? ≠ some '.') ∧
        ∀ folder ∈ folders, ¬ (folder ++ "/").toList <+: (Path.toText path).toList := by
  rw [enumerate_eq, parsed_default]
  refine ⟨_, rfl, ?_, fun file => ?_⟩
  · apply List.Pairwise.map _ _ (sorted_arranged _)
    intro a b lt
    exact append_lt_append _ lt
  · rw [List.mem_map]
    constructor
    · intro ⟨path, member, same⟩
      obtain ⟨there, ends, visible, kept⟩ := mem_selected_default_iff.1 (mem_arranged.1 member)
      refine ⟨path, same.symm, same ▸ there, ends, isHidden_eq_false_iff.1 visible, ?_⟩
      intro folder inside covered
      have excluded := (isExcluded_folders_iff plain).2 ⟨folder, inside, covered⟩
      rw [kept] at excluded
      cases excluded
    · intro ⟨path, same, there, ends, visible, apart⟩
      refine ⟨path, mem_arranged.2 (mem_selected_default_iff.2 ?_), same.symm⟩
      refine ⟨same ▸ there, ends, isHidden_eq_false_iff.2 visible, ?_⟩
      rw [← Bool.not_eq_true, isExcluded_folders_iff plain]
      intro ⟨folder, inside, covered⟩
      exact apart folder inside covered

section

def site : Tree :=
  ⟨[(["src", "pages", "app.vue"], []), (["node_modules", "lib.js"], []), ([".git", "x.js"], []),
    (["notes.txt"], [])], []⟩

def vendored : List String := ["node_modules", "dist", "build", ".svelte-kit", ".nuxt"]

theorem enumerate_default_site :
    (∀ folder ∈ vendored, ∀ c ∈ folder.toList, c ∉ ['*', '?', '[', '\x7b', '\x7d']) ∧
      ∃ files,
        enumerate site "." [ExtractOptions.defaultInclude] ExtractOptions.defaultExcludes = .ok files ∧
        ["src", "pages", "app.vue"] ∈ files ∧ ["node_modules", "lib.js"] ∉ files ∧
        [".git", "x.js"] ∉ files ∧ ["notes.txt"] ∉ files := by
  have plain : ∀ folder ∈ vendored, ∀ c ∈ folder.toList, c ∉ ['*', '?', '[', '\x7b', '\x7d'] := by
    simp [vendored]
  have excludes : ExtractOptions.defaultExcludes = vendored.map (· ++ "/**") := by decide
  have place : (Path.ofText ".").resolve = [] := by decide
  obtain ⟨files, listed, -, members⟩ := enumerate_default site "." vendored plain
  rw [← excludes] at listed
  simp only [place, List.nil_append] at members
  refine ⟨plain, files, listed, (members _).2 ⟨_, rfl, by decide⟩, ?_, ?_, ?_⟩
  all_goals
    intro member
    obtain ⟨path, same, facts⟩ := (members _).1 member
    subst same
    revert facts
    decide +kernel

end

end Phrasebook.Selection
