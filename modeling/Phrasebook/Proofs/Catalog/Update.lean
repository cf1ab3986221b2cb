import Phrasebook.Proofs.Catalog.File
import Phrasebook.Proofs.Catalog.Settled

namespace Phrasebook.Catalog

theorem of_read_eq_ok {tree : Tree} {path : String} {catalog : Catalog}
    (h : read tree path = .ok catalog) :
    (∃ bytes, tree.read (Path.ofText path) = .ok bytes ∧ ofBytes bytes = .ok catalog) ∨
      tree.read (Path.ofText path) = .error .missing ∧ catalog = empty := by
  rw [read_eq] at h
  cases found : tree.read (Path.ofText path) with
  | ok bytes =>
    rw [found] at h
    cases held : ofBytes bytes with
    | ok other =>
      simp only [held, Except.mapError] at h
      cases h
      exact .inl ⟨bytes, rfl, held⟩
    | error fault =>
      simp only [held, Except.mapError] at h
      cases h
  | error fault =>
    rw [found] at h
    cases fault with
    | missing =>
      cases h
      exact .inr ⟨rfl, rfl⟩
    | _ => cases h

section

variable {options : ReconcileOptions} {source target : Catalog} {path : String} {tree : Tree}
  (rest : List String)

theorem updateTargets_of_read_error {fault : FaultAt} (h : read tree path = .error fault) :
    (updateTargets options source (path :: rest) tree).tree = tree := by
  simp only [updateTargets, h]

theorem updateTargets_of_write_error {fault : FaultAt} (h : read tree path = .ok target)
    (failed : write tree path true true (reconcile options source target) = .error fault) :
    (updateTargets options source (path :: rest) tree).tree = tree.makeWay (Path.ofText path) := by
  rw [reconcile] at failed
  simp only [updateTargets, h, failed]

theorem updateTargets_of_write {after : Tree} (h : read tree path = .ok target)
    (written : write tree path true true (reconcile options source target) = .ok after) :
    (updateTargets options source (path :: rest) tree).tree =
      (updateTargets options source rest after).tree := by
  rw [reconcile] at written
  simp only [updateTargets, h, written]

theorem updateTargets_after_write_error {sorted pretty : Bool} {catalog : Catalog} {fault : FaultAt}
    (failed : write tree path sorted pretty catalog = .error fault) :
    (updateTargets options source (path :: rest) (tree.makeWay (Path.ofText path))).tree =
      tree.makeWay (Path.ofText path) := by
  have unwritable : ¬ tree.Writable (Path.ofText path) := by
    intro writable
    obtain ⟨after, written⟩ := exists_write_iff.2 writable
    rw [failed] at written
    cases written
  rw [← Tree.writable_makeWay_iff] at unwritable
  cases hr : read (tree.makeWay (Path.ofText path)) path with
  | error fault => exact updateTargets_of_read_error rest hr
  | ok target =>
    cases hw : write (tree.makeWay (Path.ofText path)) path true true
        (reconcile options source target) with
    | error fault => rw [updateTargets_of_write_error rest hr hw, Tree.makeWay_makeWay]
    | ok after => exact absurd (exists_write_iff.1 ⟨after, hw⟩) unwritable

end

theorem updateTargets_preserves_of_mem {options : ReconcileOptions} {source : Catalog}
    (P : Tree → Prop) (targets : List String)
    (made : ∀ {tree} path, P tree → P (tree.makeWay path))
    (written : ∀ {tree target after}, ∀ path ∈ targets, P tree → read tree path = .ok target →
      write tree path true true (reconcile options source target) = .ok after → P after)
    {tree : Tree} (start : P tree) : P (updateTargets options source targets tree).tree := by
  induction targets generalizing tree with
  | nil => exact start
  | cons path rest ih =>
    cases hr : read tree path with
    | error fault =>
      rw [updateTargets_of_read_error rest hr]
      exact start
    | ok target =>
      cases hw : write tree path true true (reconcile options source target) with
      | error fault =>
        rw [updateTargets_of_write_error rest hr hw]
        exact made _ start
      | ok after =>
        rw [updateTargets_of_write rest hr hw]
        refine ih (fun other member => written other (List.mem_cons_of_mem _ member)) ?_
        exact written path List.mem_cons_self start hr hw

theorem updateTargets_preserves {options : ReconcileOptions} {source : Catalog} (P : Tree → Prop)
    (made : ∀ {tree} path, P tree → P (tree.makeWay path))
    (written : ∀ {tree path target after}, P tree → read tree path = .ok target →
      write tree path true true (reconcile options source target) = .ok after → P after)
    (targets : List String) {tree : Tree} (start : P tree) :
    P (updateTargets options source targets tree).tree :=
  updateTargets_preserves_of_mem P targets made (fun _ _ => written) start

def SettledAt (options : ReconcileOptions) (source : Catalog) (path : String) (tree : Tree) : Prop :=
  ∃ catalog, Settled options source catalog ∧
    tree.Holds (Path.ofText path) (catalog.fileBytes true true)

theorem fileBytes_sort (catalog : Catalog) :
    catalog.sort.fileBytes true true = catalog.fileBytes true true := fileBytes_arranged true true catalog

section

variable {options : ReconcileOptions} {source : Catalog} (apart : MarksApart options source)

include apart

theorem settledAt_of_write {tree after : Tree} {path : String} {target : Catalog}
    (written : write tree path true true (reconcile options source target) = .ok after) :
    SettledAt options source path after := by
  refine ⟨_, settled_sort_reconcile apart target, ?_⟩
  rw [fileBytes_sort]
  exact Tree.holds_of_write (write_eq_ok_iff.1 written)

theorem SettledAt.of_write {tree after : Tree} {path other : String} {target : Catalog}
    (h : SettledAt options source other tree)
    (written : write tree path true true (reconcile options source target) = .ok after) :
    SettledAt options source other after := by
  obtain ⟨catalog, settled, holds⟩ := h
  have kept := holds.of_write (write_eq_ok_iff.1 written)
  split at kept
  · rw [← fileBytes_sort] at kept
    exact ⟨_, settled_sort_reconcile apart target, kept⟩
  · exact ⟨catalog, settled, kept⟩

theorem settledAt_updateTargets {tree : Tree} {path : String} (targets : List String)
    (start : SettledAt options source path tree) :
    SettledAt options source path (updateTargets options source targets tree).tree := by
  apply updateTargets_preserves (SettledAt options source path) _ _ targets start
  · rintro tree way ⟨catalog, settled, holds⟩
    exact ⟨catalog, settled, holds.makeWay way⟩
  · intro tree other target after there _ written
    exact there.of_write apart written

/-- The targets of a run, gone through again with the source in whatever order, stay as they are. -/
theorem updateTargets_again {other : Catalog} (same : other.entries.Perm source.entries)
    (targets : List String) (tree : Tree) :
    (updateTargets options other targets (updateTargets options source targets tree).tree).tree =
      (updateTargets options source targets tree).tree := by
  induction targets generalizing tree with
  | nil => rfl
  | cons path rest ih =>
    cases hr : read tree path with
    | error fault =>
      rw [updateTargets_of_read_error rest hr, updateTargets_of_read_error rest hr]
    | ok target =>
      cases hw : write tree path true true (reconcile options source target) with
      | error fault =>
        rw [updateTargets_of_write_error rest hr hw]
        exact updateTargets_after_write_error rest hw
      | ok after =>
        rw [updateTargets_of_write rest hr hw]
        obtain ⟨catalog, settled, holds⟩ :=
          settledAt_updateTargets apart rest (settledAt_of_write apart hw)
        have again : read (updateTargets options source rest after).tree path = .ok catalog := by
          rw [read_of_holds holds, if_pos rfl, settled.sorted]
        have unchanged := write_of_holds holds
        rw [← (settled.of_perm same).reconciled] at unchanged
        rw [updateTargets_of_write rest again unchanged]
        exact ih after

end

/-- What a run keeps of its source: whatever its file holds has the same entries, and a source that
    has any stays readable. -/
structure SourceKept (source : Catalog) (path : Path) (tree : Tree) : Prop where
  content : ∀ {bytes}, tree.content? path.resolve = some bytes →
    ∃ catalog, ofBytes bytes = .ok catalog ∧ catalog.entries.Perm source.entries
  present : source = empty ∨ ∃ bytes, tree.read path = .ok bytes

section

variable {source : Catalog} {tree : Tree}

theorem SourceKept.perm_of_content {path other : Path} (h : SourceKept source path tree)
    (same : other.resolve = path.resolve) {bytes : List UInt8} (there : tree.read other = .ok bytes)
    {catalog : Catalog} (held : ofBytes bytes = .ok catalog) :
    catalog.entries.Perm source.entries := by
  have content := (Tree.read_eq_ok_iff.1 there).2.2
  rw [same] at content
  obtain ⟨known, decoded, perm⟩ := h.content content
  rw [held] at decoded
  cases decoded
  exact perm

theorem SourceKept.perm_of_read {path : String} (h : SourceKept source (Path.ofText path) tree)
    {catalog : Catalog} (found : read tree path = .ok catalog) :
    catalog.entries.Perm source.entries := by
  rcases of_read_eq_ok found with ⟨bytes, there, held⟩ | ⟨absent, rfl⟩
  · exact h.perm_of_content rfl there held
  · rcases h.present with rfl | ⟨bytes, there⟩
    · exact List.Perm.refl _
    · rw [absent] at there
      cases there

theorem SourceKept.makeWay {path : Path} (h : SourceKept source path tree) (way : Path) :
    SourceKept source path (tree.makeWay way) := by
  refine ⟨h.content, h.present.imp_right ?_⟩
  rintro ⟨bytes, there⟩
  exact ⟨bytes, Tree.read_makeWay way there⟩

theorem SourceKept.of_write {path : Path} (h : SourceKept source path tree)
    {options : ReconcileOptions} {other : String} {target : Catalog} {after : Tree}
    (found : read tree other = .ok target)
    (written : write tree other true true (reconcile options source target) = .ok after) :
    SourceKept source path after := by
  have stored := write_eq_ok_iff.1 written
  constructor
  · intro bytes content
    rw [Tree.content?_write stored] at content
    split at content
    · rename_i same
      cases content
      refine ⟨_, ofBytes_fileBytes true true _, (sortEntries_perm _).trans ?_⟩
      rcases of_read_eq_ok found with ⟨bytes, there, held⟩ | ⟨_, rfl⟩
      · have perm := h.perm_of_content same.symm there held
        rw [reconcile_of_perm perm]
        exact perm
      · rw [reconcile_empty]
    · exact h.content content
  · refine h.present.imp_right ?_
    rintro ⟨bytes, there⟩
    exact ⟨_, Tree.read_of_write stored there⟩

theorem SourceKept.updateTargets {path : Path} (h : SourceKept source path tree)
    (options : ReconcileOptions) (targets : List String) :
    SourceKept source path (updateTargets options source targets tree).tree :=
  updateTargets_preserves (SourceKept source path) (fun way kept => kept.makeWay way)
    (fun kept found written => kept.of_write found written) targets h

theorem sourceKept_of_read {path : Path} {bytes : List UInt8} (there : tree.read path = .ok bytes)
    (held : ofBytes bytes = .ok source) : SourceKept source path tree := by
  refine ⟨fun {other} content => ?_, .inr ⟨bytes, there⟩⟩
  rw [(Tree.read_eq_ok_iff.1 there).2.2] at content
  cases content
  exact ⟨source, held, List.Perm.refl _⟩

theorem sourceKept_of_absent {path : Path} (absent : tree.content? path.resolve = none) :
    SourceKept empty path tree := by
  refine ⟨fun {bytes} content => ?_, .inl rfl⟩
  rw [absent] at content
  cases content

end

/-- Bringing the same files up to date again changes no byte. Two things could: a key that begins like
    a mark, where marked texts are replaced in turn, and a source that was out of reach before the
    run, behind a folder that the run has made. -/
theorem updateFiles_twice (options : ReconcileOptions) (source : String) (targets : List String)
    (tree : Tree)
    (apart : ¬ (options.replaceUntranslated = true ∧ options.validateParams = true) ∨
      ∀ catalog, read tree source = .ok catalog → ∀ key ∈ catalog.keys, isMarked key = false)
    (reach : tree.read (Path.ofText source) = .error .missing →
      tree.content? (Path.ofText source).resolve = none ∨
        ¬ (updateFiles options source targets tree).tree.Passable (Path.ofText source)) :
    (updateFiles options source targets (updateFiles options source targets tree).tree).tree =
      (updateFiles options source targets tree).tree := by
  cases found : read tree source with
  | error fault => simp only [updateFiles, found]
  | ok catalog =>
    have run : (updateFiles options source targets tree).tree =
        (updateTargets options catalog targets tree).tree := by
      simp only [updateFiles, found]
    rw [run] at reach ⊢
    have marks : MarksApart options catalog := apart.imp_right fun unmarked => unmarked catalog found
    generalize reached : (updateTargets options catalog targets tree).tree = after at reach ⊢
    cases again : read after source with
    | error fault => simp only [updateFiles, again]
    | ok other =>
      have same : other.entries.Perm catalog.entries := by
        rcases of_read_eq_ok found with ⟨bytes, there, held⟩ | ⟨absent, rfl⟩
        · have kept := (sourceKept_of_read there held).updateTargets options targets
          rw [reached] at kept
          exact kept.perm_of_read again
        · rcases reach absent with nothing | blocked
          · have kept := (sourceKept_of_absent nothing).updateTargets options targets
            rw [reached] at kept
            exact kept.perm_of_read again
          · rcases of_read_eq_ok again with ⟨bytes, there, _⟩ | ⟨_, rfl⟩
            · exact absurd (Tree.read_eq_ok_iff.1 there).1 blocked
            · exact List.Perm.refl _
      simp only [updateFiles, again]
      rw [← reached]
      exact updateTargets_again marks same targets tree

/-- One catalog, with one entry. -/
def single : Tree := ⟨[(["s.json"], Text.encode "\x7b\"k\": \"v\"\x7d".toList)], []⟩

theorem updateFiles_twice_single :
    (∀ catalog, read single "s.json" = .ok catalog → ∀ key ∈ catalog.keys, isMarked key = false) ∧
      (updateFiles ⟨true, true, true⟩ "s.json" ["t.json", "s.json", "t.json"]
          (updateFiles ⟨true, true, true⟩ "s.json" ["t.json", "s.json", "t.json"] single).tree).tree =
        (updateFiles ⟨true, true, true⟩ "s.json" ["t.json", "s.json", "t.json"] single).tree := by
  have found : read single "s.json" = .ok ⟨[("k", "v")], by decide⟩ := by decide +kernel
  have unmarked : ∀ catalog, read single "s.json" = .ok catalog →
      ∀ key ∈ catalog.keys, isMarked key = false := by
    intro catalog other
    rw [found] at other
    cases other
    decide
  have present : single.read (Path.ofText "s.json") ≠ .error .missing := by decide +kernel
  exact ⟨unmarked, updateFiles_twice ⟨true, true, true⟩ "s.json" ["t.json", "s.json", "t.json"] single
    (.inr unmarked) fun absent => absurd absent present⟩

/-- The folder that hides the source is made for the target, so the second run finds the source. -/
theorem updateFiles_twice_hidden :
    read single "d/../s.json" = .ok empty ∧ read single "d/t.json" = .ok empty ∧
      (updateFiles .default "d/../s.json" ["d/t.json"] single).tree.content? ["d", "t.json"] =
        some (Text.encode "\x7b\x7d\n".toList) ∧
      (updateFiles .default "d/../s.json" ["d/t.json"]
          (updateFiles .default "d/../s.json" ["d/t.json"] single).tree).tree.content?
            ["d", "t.json"] =
        some (Text.encode "\x7b\n  \"k\": \"v\"\n\x7d\n".toList) := by
  decide +kernel

end Phrasebook.Catalog
