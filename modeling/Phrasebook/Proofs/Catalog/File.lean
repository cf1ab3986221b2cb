import Phrasebook.Proofs.Catalog.Rendering
import Phrasebook.Proofs.Catalog.Sort
import Phrasebook.Proofs.Project.Write

namespace Phrasebook.Catalog

theorem read_eq (tree : Tree) (path : String) :
    read tree path =
      match tree.read (Path.ofText path) with
      | .ok bytes => (ofBytes bytes).mapError (⟨path, ·⟩)
      | .error .missing => .ok empty
      | .error fault => .error ⟨path, .file fault⟩ := by
  unfold read Tree.readText
  cases tree.read (Path.ofText path) with
  | error fault => cases fault <;> rfl
  | ok bytes =>
    cases decoded : Text.decode bytes with
    | error defect => simp [ofBytes, decoded, Bind.bind, Except.bind, Except.mapError]
    | ok text =>
      simp [ofBytes, decoded, Bind.bind, Except.bind, Except.mapError, Pure.pure, Except.pure]

theorem read_of_holds {tree : Tree} {path : String} {sorted pretty : Bool} {catalog : Catalog}
    (h : tree.Holds (Path.ofText path) (catalog.fileBytes sorted pretty)) :
    read tree path = .ok (if sorted then catalog.sort else catalog) := by
  simp only [read_eq, h.read, ofBytes_fileBytes]
  rfl

theorem write_eq_ok_iff {tree after : Tree} {path : String} {sorted pretty : Bool}
    {catalog : Catalog} :
    write tree path sorted pretty catalog = .ok after ↔
      tree.write (Path.ofText path) (catalog.fileBytes sorted pretty) = .ok after := by
  rw [write, ← fileBytes]
  cases tree.write (Path.ofText path) (catalog.fileBytes sorted pretty) <;>
    simp [Except.mapError]

theorem write_of_holds {tree : Tree} {path : String} {sorted pretty : Bool} {catalog : Catalog}
    (h : tree.Holds (Path.ofText path) (catalog.fileBytes sorted pretty)) :
    write tree path sorted pretty catalog = .ok tree := write_eq_ok_iff.2 h.write

theorem fileBytes_arranged (sorted pretty : Bool) (catalog : Catalog) :
    (if sorted then catalog.sort else catalog).fileBytes sorted pretty =
      catalog.fileBytes sorted pretty := by
  rw [fileBytes, fileBytes, fileText, fileText, sort_if_idem]

theorem exists_write_iff {tree : Tree} {path : String} {sorted pretty : Bool} {catalog : Catalog} :
    (∃ after, write tree path sorted pretty catalog = .ok after) ↔
      tree.Writable (Path.ofText path) := by
  constructor
  · rintro ⟨after, h⟩
    exact (Tree.write_eq_ok_iff.1 (write_eq_ok_iff.1 h)).1
  · intro h
    exact ⟨_, write_eq_ok_iff.2 (Tree.write_eq_ok_iff.2 ⟨h, rfl⟩)⟩

/-- The entries that have been written are read in some order, and writing them in that order changes
    nothing. -/
theorem exists_read_of_write {tree after : Tree} {path : String} {sorted pretty : Bool}
    {catalog : Catalog} (written : write tree path sorted pretty catalog = .ok after) :
    ∃ stored, read after path = .ok stored ∧ stored.entries.Perm catalog.entries ∧
      write after path sorted pretty stored = .ok after := by
  have holds := Tree.holds_of_write (write_eq_ok_iff.1 written)
  refine ⟨_, read_of_holds holds, ?_, write_of_holds ?_⟩
  · split
    · exact sortEntries_perm _
    · exact List.Perm.refl _
  · rw [fileBytes_arranged]
    exact holds

/-- A catalog can be written wherever a file can be. It is then read as it was written, and writing
    what is read changes no byte. -/
theorem read_write_rewrite (tree : Tree) (path : String) (sorted pretty : Bool) (catalog : Catalog) :
    ((∃ after, write tree path sorted pretty catalog = .ok after) ↔
        tree.Writable (Path.ofText path)) ∧
      ∀ after, write tree path sorted pretty catalog = .ok after →
        read after path = .ok (if sorted then catalog.sort else catalog) ∧
        write after path sorted pretty (if sorted then catalog.sort else catalog) = .ok after := by
  refine ⟨exists_write_iff, fun after written => ?_⟩
  have holds := Tree.holds_of_write (write_eq_ok_iff.1 written)
  refine ⟨read_of_holds holds, write_of_holds ?_⟩
  rw [fileBytes_arranged]
  exact holds

/-- Two keys out of order, and texts of quotes, backslashes, line breaks and nothing. -/
def awkward : Catalog :=
  ⟨[("b\u2028", "\"\\\r\n"), ("", ""), ("a\u0000", "\u001f\u007f")], by decide⟩

theorem read_write_rewrite_awkward :
    ∃ after, write Tree.empty "b.json" true true awkward = .ok after ∧
      read after "b.json" = .ok awkward.sort ∧
      write after "b.json" true true awkward.sort = .ok after := by
  have general := read_write_rewrite Tree.empty "b.json" true true awkward
  obtain ⟨after, written⟩ := general.1.2 ⟨by decide, by unfold Tree.Unblocked; decide, by decide⟩
  exact ⟨after, written, general.2 after written⟩

end Phrasebook.Catalog
