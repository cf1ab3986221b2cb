import Phrasebook.Proofs.Project.Write

namespace Phrasebook.Tree

/-- What may become of the files where only those at some places are written: folders stay folders,
    files stay files, and the other files keep their bytes. -/
structure Touched (places : List Path) (before after : Tree) : Prop where
  folders : ∀ place, before.isFolder place = true → after.isFolder place = true
  files : ∀ place, before.isFile place = true → before.isFolder place = false →
    after.isFile place = true ∧ after.isFolder place = false
  others : ∀ place, place ∉ places → after.content? place = before.content? place

namespace Touched

variable {places : List Path} {before between after : Tree}

theorem refl (places : List Path) (tree : Tree) : Touched places tree tree :=
  ⟨fun _ folder => folder, fun _ file plain => ⟨file, plain⟩, fun _ _ => rfl⟩

theorem trans (first : Touched places before between) (second : Touched places between after) :
    Touched places before after where
  folders place folder := second.folders place (first.folders place folder)
  files place file plain :=
    have ⟨still, plain⟩ := first.files place file plain
    second.files place still plain
  others place other := (second.others place other).trans (first.others place other)

theorem of_makeWay (places : List Path) (tree : Tree) (path : Path) :
    Touched places tree (tree.makeWay path) where
  folders place folder := isFolder_makeWay_iff.2 (.inl folder)
  files place file plain := by
    refine ⟨file, ?_⟩
    rw [← Bool.not_eq_true, isFolder_makeWay_iff, plain]
    rintro (folder | passed)
    · cases folder
    · rw [isFile_of_mem_wayFrom passed] at file
      cases file
  others place _ := rfl

theorem of_write {tree : Tree} {path : Path} {bytes : List UInt8} (mine : path.resolve ∈ places)
    (written : tree.write path bytes = .ok after) : Touched places tree after where
  folders place folder := (isFolder_write_iff written).2 (.inl folder)
  files place file plain := by
    constructor
    · rw [isFile, content?_write written]
      split
      · rfl
      · exact file
    · rw [← Bool.not_eq_true, isFolder_write_iff written, plain]
      rintro (folder | passed)
      · cases folder
      · rw [(write_eq_ok_iff.1 written).1.unblocked place passed] at file
        cases file
  others place other := by
    rw [content?_write written, if_neg]
    rintro rfl
    exact other mine

theorem locateFrom (touched : Touched places before after) {here : Path} {parts : List String}
    (found : before.locateFrom here parts ≠ .error .missing) :
    after.locateFrom here parts = before.locateFrom here parts := by
  induction parts generalizing here with
  | nil => rfl
  | cons part parts ih =>
    rw [Tree.locateFrom] at found ⊢
    rw [Tree.locateFrom]
    cases open' : parts.isEmpty || before.isFolder (here.enter part) with
    | true =>
      have still : (parts.isEmpty || after.isFolder (here.enter part)) = true := by
        rw [Bool.or_eq_true] at open' ⊢
        exact open'.imp_right (touched.folders _)
      rw [if_pos open'] at found
      rw [if_pos rfl, if_pos still]
      exact ih found
    | false =>
      obtain ⟨inner, plain⟩ := Bool.or_eq_false_iff.1 open'
      rw [open'] at found
      cases file : before.isFile (here.enter part) with
      | true =>
        obtain ⟨still, plain⟩ := touched.files _ file plain
        simp [inner, plain, still]
      | false =>
        rw [file] at found
        exact absurd rfl found

theorem read (touched : Touched places before after) {path : Path} (other : path.resolve ∉ places)
    (found : before.read path ≠ .error .missing) : after.read path = before.read path := by
  have located : before.locate path ≠ .error .missing := by
    intro missing
    rw [Tree.read, missing] at found
    exact found rfl
  have same : after.locate path = before.locate path := touched.locateFrom located
  unfold Tree.read at found ⊢
  rw [same]
  cases place : before.locate path with
  | error fault => rfl
  | ok place' =>
    obtain ⟨_, rfl⟩ := locate_eq_ok_iff.1 place
    rw [place] at found
    simp only [Bind.bind, Except.bind] at found ⊢
    rw [touched.others _ other]
    cases folder : before.isFolder path.resolve with
    | true => rw [touched.folders _ folder]
    | false =>
      rw [folder] at found
      cases content : before.content? path.resolve with
      | none =>
        rw [content] at found
        exact absurd rfl found
      | some bytes =>
        have file : before.isFile path.resolve = true := by rw [isFile, content]; rfl
        rw [(touched.files _ file folder).2]

end Touched

end Phrasebook.Tree
