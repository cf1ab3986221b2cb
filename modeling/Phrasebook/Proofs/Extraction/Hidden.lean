import Phrasebook.Proofs.Extraction.Selection

namespace Phrasebook.Selection

/-- A part of a pattern asks for an entry whose name begins with a dot. -/
def NamesDotEntry (pattern : String) : Prop :=
  ∃ part ∈ Path.rawParts pattern, startsWithDot part = true ∧ part ≠ "." ∧ part ≠ ".."

theorem namesHidden_iff {pattern : String} : namesHidden pattern = true ↔
    NamesDotEntry pattern ∨ "." ∈ Path.rawParts pattern ∨ ".." ∈ Path.rawParts pattern := by
  rw [namesHidden, List.any_eq_true]
  constructor
  · intro ⟨part, member, dotted⟩
    by_cases here : part = "."
    · exact .inr (.inl (here ▸ member))
    · by_cases above : part = ".."
      · exact .inr (.inr (above ▸ member))
      · exact .inl ⟨part, member, dotted, here, above⟩
  · intro either
    rcases either with ⟨part, member, dotted, _⟩ | here | above
    · exact ⟨part, member, dotted⟩
    · exact ⟨".", here, by decide⟩
    · exact ⟨"..", above, by decide⟩

/-- A pattern leads from a folder to a file by these parts. -/
def LeadsTo (tree : Tree) (folder : Path) (pattern : String) (path : Path) : Prop :=
  ∃ all, Glob.run tree folder pattern = .ok all ∧
    ∃ found ∈ all, tree.isFile found.place = true ∧ found.parts = path

theorem exists_selectOne_iff {tree : Tree} {folder : Path} {excludes : List String} {pattern : String}
    {path : Path} :
    (∃ paths, selectOne tree folder excludes pattern = .ok paths ∧ path ∈ paths) ↔
      isExcluded (Path.toText path) excludes = false ∧ LeadsTo tree folder pattern path ∧
        (isHidden path = true → namesHidden pattern = true) := by
  have shown : ∀ parts, (namesHidden pattern || !isHidden parts) = true ↔
      (isHidden parts = true → namesHidden pattern = true) := by
    intro parts
    cases namesHidden pattern <;> simp
  unfold selectOne LeadsTo
  cases run : Glob.run tree folder pattern with
  | error fault => simp [Bind.bind, Except.bind]
  | ok all =>
    simp only [Bind.bind, Except.bind, Pure.pure, Except.pure, Except.ok.injEq, exists_eq_left',
      List.mem_map, List.mem_filter, Bool.and_eq_true, shown, Bool.not_eq_true']
    constructor
    · intro ⟨found, ⟨member, ⟨file, asked⟩, kept⟩, same⟩
      subst same
      exact ⟨kept, ⟨found, member, file, rfl⟩, asked⟩
    · intro ⟨kept, ⟨found, member, file, same⟩, asked⟩
      subst same
      exact ⟨found, ⟨member, ⟨file, asked⟩, kept⟩, rfl⟩

/-- A file with a part that begins with a dot is selected by the patterns that lead to it and name a dot
    entry, but also by those that lead to it and have a part `.` or `..`. -/
theorem mem_enumerate_iff {tree : Tree} {root : String} {includes excludes : List String}
    {files : List Path} (listed : enumerate tree root includes excludes = .ok files) (file : Path) :
    file ∈ files ↔ ∃ path, file = (Path.ofText root).resolve ++ path ∧
      isExcluded (Path.toText path) excludes = false ∧
      ∃ pattern ∈ patterns includes, LeadsTo tree (Path.ofText root).resolve pattern path ∧
        (isHidden path = true → NamesDotEntry pattern ∨ "." ∈ Path.rawParts pattern ∨
          ".." ∈ Path.rawParts pattern) := by
  obtain ⟨found, each, rest⟩ := bind_eq_ok_iff.1 listed
  cases rest
  have chosen : ∀ path, path ∈ found.flatten.eraseDups.mergeSort lePath ↔
      ∃ pattern ∈ patterns includes, ∃ paths,
        selectOne tree (Path.ofText root).resolve excludes pattern = .ok paths ∧ path ∈ paths := by
    intro path
    rw [List.mem_mergeSort, List.mem_eraseDups, List.mem_flatten]
    simp only [mem_mapM_iff each]
    constructor
    · intro ⟨paths, ⟨pattern, given, selected⟩, member⟩
      exact ⟨pattern, given, paths, selected, member⟩
    · intro ⟨pattern, given, paths, selected, member⟩
      exact ⟨paths, ⟨pattern, given, selected⟩, member⟩
  simp only [List.mem_map, chosen, exists_selectOne_iff, namesHidden_iff]
  constructor
  · intro ⟨path, ⟨pattern, given, kept, leads, asked⟩, same⟩
    exact ⟨path, same.symm, kept, pattern, given, leads, asked⟩
  · intro ⟨path, same, kept, pattern, given, leads, asked⟩
    exact ⟨path, ⟨pattern, given, kept, leads, asked⟩, same.symm⟩

/-- A repository next to the sources of a project. -/
def repository : Tree :=
  ⟨[([".git", "x.js"], Text.encode "t('k')".toList), (["src", "app.js"], Text.encode "t('a')".toList)], []⟩

theorem mem_enumerate_iff_git :
    enumerate repository "." [".git/*.js"] [] = .ok [[".git", "x.js"]] ∧
      ∃ pattern ∈ patterns [".git/*.js"], LeadsTo repository [] pattern [".git", "x.js"] ∧
        NamesDotEntry pattern := by
  have found : selectOne repository [] [] ".git/*.js" = .ok [[".git", "x.js"]] := by decide +kernel
  have listed : enumerate repository "." [".git/*.js"] [] = .ok [[".git", "x.js"]] :=
    enumerate_single (by decide) found (by decide) (by decide +kernel)
  have place : (Path.ofText ".").resolve = [] := by decide
  obtain ⟨path, same, -, pattern, given, leads, asked⟩ :=
    (mem_enumerate_iff listed [".git", "x.js"]).1 (by decide)
  rw [place] at same leads
  obtain rfl : [".git", "x.js"] = path := same
  refine ⟨listed, pattern, given, leads, ?_⟩
  rw [patterns_single (by decide), List.mem_singleton] at given
  rcases asked (by decide) with names | here | above
  · exact names
  · exact absurd here (given ▸ by decide)
  · exact absurd above (given ▸ by decide)

/-- A part that names no entry lets a pattern into every hidden folder. -/
theorem git_selected_by_current_folder :
    enumerate repository "." ["./**/*.js"] [] = .ok [[".git", "x.js"], ["src", "app.js"]] ∧
      isHidden [".git", "x.js"] = true ∧
      ∀ pattern ∈ patterns ["./**/*.js"], ¬ NamesDotEntry pattern := by
  have found : selectOne repository [] [] "./**/*.js" =
      .ok [[".git", "x.js"], ["src", "app.js"]] := by decide +kernel
  refine ⟨enumerate_single (by decide) found (by decide) (by decide +kernel), by decide, ?_⟩
  intro pattern given
  rw [patterns_single (by decide), List.mem_singleton] at given
  subst given
  intro ⟨part, member, dotted, here, above⟩
  revert part
  decide

end Phrasebook.Selection
