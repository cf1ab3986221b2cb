import Phrasebook.Proofs.Project.Tree

namespace Phrasebook.Tree

/-- A file can be written at a path: no file is in the way, and no folder in its place once those on
    the way are made. -/
structure Writable (tree : Tree) (path : Path) : Prop where
  named : path ≠ []
  unblocked : tree.Unblocked path
  vacant : (tree.makeWay path).isFolder path.resolve = false

theorem write_eq_ok_iff {tree after : Tree} {path : Path} {bytes : List UInt8} :
    tree.write path bytes = .ok after ↔
      tree.Writable path ∧ after = (tree.makeWay path).put path.resolve bytes := by
  constructor
  · intro h
    unfold write at h
    cases hs : tree.settleFrom false [] path.dropLast with
    | error fault => simp [hs, Bind.bind, Except.bind] at h
    | ok folder =>
      have unblocked := unblocked_of_settleFrom hs
      rw [settleFrom_of_unblocked false unblocked] at hs
      cases hs
      rw [settleFrom_of_unblocked false unblocked] at h
      simp only [Bind.bind, Except.bind] at h
      cases hn : path.getLast? with
      | none => simp [hn] at h
      | some name =>
        have place := Path.resolve_of_getLast? hn
        simp only [hn] at h
        rw [← Path.resolve, ← place] at h
        split at h
        · cases h
        · rename_i vacant
          cases h
          refine ⟨⟨?_, unblocked, by simpa using vacant⟩, rfl⟩
          rintro rfl
          cases hn
  · rintro ⟨⟨named, unblocked, vacant⟩, rfl⟩
    obtain ⟨name, hn⟩ : ∃ name, path.getLast? = some name :=
      ⟨_, List.getLast?_eq_some_getLast named⟩
    have place := Path.resolve_of_getLast? hn
    simp only [write, settleFrom_of_unblocked false unblocked, Bind.bind, Except.bind, hn]
    rw [← Path.resolve, ← place, vacant]
    rfl

structure Holds (tree : Tree) (path : Path) (bytes : List UInt8) : Prop where
  unblocked : tree.Unblocked path
  read : tree.read path = .ok bytes

theorem ne_nil_of_read {tree : Tree} {path : Path} {bytes : List UInt8}
    (h : tree.read path = .ok bytes) : path ≠ [] := by
  rintro rfl
  have place := (read_eq_ok_iff.1 h).2.1
  simp [Path.resolve, isFolder] at place

theorem makeWay_of_passable {tree : Tree} {path : Path} (passable : tree.Passable path)
    (unblocked : tree.Unblocked path) : tree.makeWay path = tree := by
  have nothing : (tree.wayFrom [] path.dropLast).filter (fun folder => !tree.isFolder folder) = [] := by
    rw [wayFrom_of_unblocked unblocked, List.filter_eq_nil_iff]
    intro place member
    simp [passable place member]
  rw [makeWay, nothing, List.append_nil]

theorem Holds.write {tree : Tree} {path : Path} {bytes : List UInt8} (h : tree.Holds path bytes) :
    tree.write path bytes = .ok tree := by
  obtain ⟨passable, place, content⟩ := read_eq_ok_iff.1 h.read
  have way := makeWay_of_passable passable h.unblocked
  rw [write_eq_ok_iff]
  refine ⟨⟨ne_nil_of_read h.read, h.unblocked, by rw [way]; exact place⟩, ?_⟩
  rw [way, put, putFile_of_lookup content]

section

variable {tree after : Tree} {path : Path} {bytes : List UInt8}

theorem isFolder_write_iff (h : tree.write path bytes = .ok after) {place : Path} :
    after.isFolder place = true ↔ tree.isFolder place = true ∨ place ∈ path.passed := by
  obtain ⟨⟨named, unblocked, vacant⟩, rfl⟩ := write_eq_ok_iff.1 h
  have way : tree.wayFrom [] path.dropLast = path.passed := wayFrom_of_unblocked unblocked
  have made : (tree.makeWay path).isFolder place = true ↔
      tree.isFolder place = true ∨ place ∈ path.passed := by
    rw [← way]
    exact isFolder_makeWay_iff
  rw [isFolder_put, Bool.or_eq_true, made]
  refine ⟨fun h => h.elim id fun inside => ?_, .inl⟩
  -- The new file lies in the last folder passed, and so in those above it only.
  simp only [isInside, Bool.and_eq_true, List.isPrefixOf_iff_prefix, bne_iff_ne] at inside
  obtain ⟨name, hn⟩ : ∃ name, path.getLast? = some name :=
    ⟨_, List.getLast?_eq_some_getLast named⟩
  have above : place <+: Path.resolve path.dropLast := by
    have below := inside.1
    rw [Path.resolve_of_getLast? hn] at below
    rcases Path.prefix_of_prefix_enter below with above | same
    · exact above
    · exact absurd ((Path.resolve_of_getLast? hn).trans same.symm) inside.2
  by_cases root : path.dropLast = []
  · rw [root, Path.resolve, List.foldl_nil, List.prefix_nil] at above
    exact .inl (by simp [isFolder, above])
  · have passed := Path.foldl_enter_mem_placesFrom [] root
    rw [← made]
    apply isFolder_of_prefix _ above
    rw [isFolder_makeWay_iff, way]
    exact .inr passed

theorem content?_write (h : tree.write path bytes = .ok after) {place : Path} :
    after.content? place = if place = path.resolve then some bytes else tree.content? place := by
  obtain ⟨_, rfl⟩ := write_eq_ok_iff.1 h
  exact content?_put

theorem isFolder_resolve_of_write (h : tree.write path bytes = .ok after) :
    after.isFolder path.resolve = false := by
  obtain ⟨⟨_, _, vacant⟩, rfl⟩ := write_eq_ok_iff.1 h
  rw [isFolder_put, vacant]
  simp [isInside]

theorem holds_of_write (h : tree.write path bytes = .ok after) : after.Holds path bytes := by
  have place := isFolder_resolve_of_write h
  have passable : after.Passable path := fun folder member =>
    (isFolder_write_iff h).2 (.inr member)
  obtain ⟨⟨named, unblocked, _⟩, _⟩ := write_eq_ok_iff.1 h
  refine ⟨fun folder member => ?_,
    read_eq_ok_iff.2 ⟨passable, place, by rw [content?_write h, if_pos rfl]⟩⟩
  have other : folder ≠ path.resolve := fun same => by
    rw [← same, passable folder member] at place
    cases place
  rw [isFile_eq_false_iff, content?_write h, if_neg other]
  exact isFile_eq_false_iff.1 (unblocked folder member)

/-- A file that is read stays one when another is written, and loses its bytes to it at most. -/
theorem read_of_write (h : tree.write path bytes = .ok after) {other : Path}
    {content : List UInt8} (there : tree.read other = .ok content) :
    after.read other = .ok (if other.resolve = path.resolve then bytes else content) := by
  obtain ⟨passable, place, held⟩ := read_eq_ok_iff.1 there
  obtain ⟨⟨_, unblocked, _⟩, _⟩ := write_eq_ok_iff.1 h
  refine read_eq_ok_iff.2 ⟨fun folder member => (isFolder_write_iff h).2 (.inl (passable folder member)),
    ?_, ?_⟩
  · rw [← Bool.not_eq_true, isFolder_write_iff h, place]
    rintro (folder | passed)
    · cases folder
    · have absent := isFile_eq_false_iff.1 (unblocked _ passed)
      rw [held] at absent
      cases absent
  · rw [content?_write h, held]
    split <;> rfl

theorem Holds.of_write (h : tree.write path bytes = .ok after) {other : Path}
    {content : List UInt8} (there : tree.Holds other content) :
    after.Holds other (if other.resolve = path.resolve then bytes else content) := by
  refine ⟨fun folder member => ?_, read_of_write h there.read⟩
  have passable := (read_eq_ok_iff.1 there.read).1 folder member
  have place : folder ≠ path.resolve := by
    rintro rfl
    have vacant := isFolder_resolve_of_write h
    rw [(isFolder_write_iff h).2 (.inl passable)] at vacant
    cases vacant
  rw [isFile_eq_false_iff, content?_write h, if_neg place]
  exact isFile_eq_false_iff.1 (there.unblocked folder member)

end

section

variable {tree : Tree}

theorem read_makeWay (path : Path) {other : Path} {content : List UInt8}
    (there : tree.read other = .ok content) : (tree.makeWay path).read other = .ok content := by
  obtain ⟨passable, place, held⟩ := read_eq_ok_iff.1 there
  refine read_eq_ok_iff.2 ⟨fun folder member => isFolder_makeWay_iff.2 (.inl (passable folder member)),
    ?_, held⟩
  rw [← Bool.not_eq_true, isFolder_makeWay_iff, place]
  rintro (folder | passed)
  · cases folder
  · have absent := isFile_eq_false_iff.1 (isFile_of_mem_wayFrom passed)
    rw [held] at absent
    cases absent

theorem Holds.makeWay (path : Path) {other : Path} {content : List UInt8}
    (there : tree.Holds other content) : (tree.makeWay path).Holds other content :=
  ⟨there.unblocked, read_makeWay path there.read⟩

theorem wayFrom_makeWay (path here : Path) (parts : List String) :
    (tree.makeWay path).wayFrom here parts = tree.wayFrom here parts := by
  induction parts generalizing here with
  | nil => rfl
  | cons part parts ih =>
    have file : (tree.makeWay path).isFile (here.enter part) = tree.isFile (here.enter part) := rfl
    rw [wayFrom, wayFrom, file, ih]

theorem makeWay_makeWay (path : Path) : (tree.makeWay path).makeWay path = tree.makeWay path := by
  have nothing : ((tree.makeWay path).wayFrom [] path.dropLast).filter
      (fun folder => !(tree.makeWay path).isFolder folder) = [] := by
    rw [wayFrom_makeWay, List.filter_eq_nil_iff]
    intro folder member
    rw [isFolder_makeWay_iff.2 (.inr member)]
    simp
  rw [Tree.makeWay, nothing, List.append_nil]

theorem writable_makeWay_iff {path : Path} :
    (tree.makeWay path).Writable path ↔ tree.Writable path := by
  constructor
  · rintro ⟨named, unblocked, vacant⟩
    rw [makeWay_makeWay] at vacant
    exact ⟨named, unblocked, vacant⟩
  · rintro ⟨named, unblocked, vacant⟩
    exact ⟨named, unblocked, by rw [makeWay_makeWay]; exact vacant⟩

end

end Phrasebook.Tree
