import Phrasebook.Proofs.Catalog.Batch
import Phrasebook.Proofs.Catalog.Changes
import Phrasebook.Proofs.CommandLine.Act

namespace Phrasebook.CommandLine

open Act
open Phrasebook.Tree (Touched)

def updatedLine (count : Nat) : Line :=
  .coloured .green ("Updated " ++ toString count ++ " locale files")

def targetLog (request : UpdateRequest) (source target : Catalog) (path : String) (tree : Tree) :
    List Record :=
  let reconciled := Catalog.reconcileFully request.options source target
  absenceRecords tree path ++ reconciled.mismatches.map Catalog.Mismatch.record ++
    [⟨.info, origin, statsMessage path reconciled.stats⟩]

section

variable {settings : CatalogSettings} {request : UpdateRequest} {source : Catalog} {path : String}
  {before after : Session} {u : Unit}

theorem yields_updateTarget :
    Yields (updateTarget settings request source path) before u after ↔
      ∃ target tree, Catalog.read before.tree path = .ok target ∧
        (if request.dryRun then tree = before.tree
        else Catalog.write before.tree path settings.sorted.isGiven settings.pretty.isGiven
          (Catalog.reconcile request.options source target) = .ok tree) ∧
        after =
          ⟨tree,
            before.output ++
              (if request.dryRun then
                updatePreview path target (Catalog.reconcile request.options source target)
              else []),
            before.log ++ targetLog request source target path before.tree⟩ := by
  unfold updateTarget
  simp only [yields_bind, yields_readCatalog, yields_logAll]
  cases dry : request.dryRun with
  | true =>
    simp only [if_true, yields_bind, yields_printAll, yields_log]
    constructor
    · rintro ⟨target, _, ⟨there, rfl⟩, _, _, rfl, _, _, rfl, rfl⟩
      refine ⟨target, _, there, rfl, ?_⟩
      simp [targetLog, Catalog.reconcile]
    · rintro ⟨target, tree, there, rfl, rfl⟩
      refine ⟨target, _, ⟨there, rfl⟩, (), _, rfl, (), _, rfl, ?_⟩
      simp [targetLog, Catalog.reconcile]
  | false =>
    simp only [Bool.false_eq_true, if_false, yields_bind, yields_writeCatalog, yields_log]
    constructor
    · rintro ⟨target, _, ⟨there, rfl⟩, _, _, rfl, _, _, ⟨tree, written, rfl⟩, rfl⟩
      refine ⟨target, tree, there, written, ?_⟩
      simp [targetLog]
    · rintro ⟨target, tree, there, written, rfl⟩
      refine ⟨target, _, ⟨there, rfl⟩, (), _, rfl, (), _, ⟨tree, written, rfl⟩, ?_⟩
      simp [targetLog]

theorem yields_runUpdate :
    Yields (runUpdate settings request) before u after ↔
      ∃ source between, Catalog.read before.tree request.source = .ok source ∧
        Yields (request.targets.forM (updateTarget settings request source))
          { before with log := before.log ++ absenceRecords before.tree request.source } () between ∧
        after =
          { between with output := between.output ++ [updatedLine request.targets.length] } := by
  unfold runUpdate
  simp only [yields_bind, yields_readCatalog, yields_print]
  constructor
  · rintro ⟨source, _, ⟨there, rfl⟩, _, between, done, rfl⟩
    exact ⟨source, between, there, done, rfl⟩
  · rintro ⟨source, between, there, done, rfl⟩
    exact ⟨source, _, ⟨there, rfl⟩, (), between, done, rfl⟩

/-- What reading is allowed to do and, unless it is a dry run, writing a target, the command may do. -/
theorem always_runUpdate {allowed : Tree → Option Stop → Tree → Prop} (closed : Closed allowed)
    (writes : request.dryRun = false → ∀ path ∈ request.targets, ∀ catalog,
      Always allowed (writeCatalog settings path catalog)) :
    Always allowed (runUpdate settings request) := by
  unfold runUpdate
  refine closed.bind (closed.readCatalog _) fun source => ?_
  refine closed.bind (closed.forM fun path member => ?_) fun _ => closed.print _
  unfold updateTarget
  refine closed.bind (closed.readCatalog _) fun target => ?_
  refine closed.bind (closed.logAll _) fun _ => ?_
  split
  · exact closed.bind (closed.printAll _) fun _ => closed.log _ _
  · next real =>
    exact closed.bind (writes (by simpa using real) path member _) fun _ => closed.log _ _

theorem quitsFailing_runUpdate : Always quitsFailing (runUpdate settings request) :=
  always_runUpdate closed_quitsFailing fun _ _ _ => quitsFailing_writeCatalog _ _

theorem filesKept_runUpdate (dry : request.dryRun = true) :
    Always filesKept (runUpdate settings request) :=
  always_runUpdate closed_filesKept fun real => nomatch dry.symm.trans real

theorem touched_runUpdate : Always
    (fun before _ after => Touched (Catalog.placesOf request.targets) before after)
    (runUpdate settings request) := by
  refine always_runUpdate ⟨.refl _, fun tree _ _ => .refl _ tree, .trans⟩
    fun _ path member catalog => ?_
  exact always_writeCatalog (Catalog.touched_of_write member) (fun tree _ => .of_makeWay _ tree _)
    (.refl _) settings catalog

theorem runUpdate_of_unreadable {format : LogFormat} {front : List String} {bad : String} {tree : Tree}
    {fault : Catalog.FaultAt}
    (ended : (Outcome.ofAct tree format
      (runUpdate settings { request with targets := front })).status = 0)
    (unreadable : Catalog.read (Outcome.ofAct tree format
      (runUpdate settings { request with targets := front })).tree bad = .error fault)
    (back : List String) :
    let run := Outcome.ofAct tree format
      (runUpdate settings { request with targets := front ++ bad :: back })
    run.status = 1 ∧ run.tree =
      (Outcome.ofAct tree format (runUpdate settings { request with targets := front })).tree := by
  obtain ⟨_, ends⟩ := Outcome.yields_of_status quitsFailing_runUpdate ended
  rw [Outcome.ofAct_of_yields ends] at unreadable ⊢
  obtain ⟨source, between, there, done, rfl⟩ := yields_runUpdate.1 ends
  obtain ⟨stop, after, stops, status, kept, -⟩ := stops_readCatalog unreadable
  have step : Stops (updateTarget settings request source bad) between stop after :=
    stops_bind.2 (.inl stops)
  have whole : Stops (runUpdate settings { request with targets := front ++ bad :: back })
      ⟨tree, [], []⟩ stop after := by
    refine stops_bind.2 (.inr ⟨source, _, yields_readCatalog.2 ⟨there, rfl⟩, ?_⟩)
    exact stops_bind.2 (.inl (stops_forM done step back))
  obtain ⟨ended, files⟩ := Outcome.ofAct_of_stops whole
  exact ⟨ended.trans status, files.trans kept⟩

end

def updating (settings : CatalogSettings) (format : LogFormat) (request : UpdateRequest)
    (targets : List String) (tree : Tree) : Outcome :=
  Outcome.ofAct tree format (runUpdate settings { request with targets })

/-- A target that cannot be read ends a run of the library and of the command there: what is done is
    what is done for the targets before it, so that all other files are as they were. It cannot be read
    when its turn comes if it could not be read at first and none of these is the same file. -/
theorem update_of_unreadable (settings : CatalogSettings) (format : LogFormat)
    (request : UpdateRequest) (front : List String) (bad : String) (back : List String) (tree : Tree)
    (fault : Catalog.FaultAt) :
    let files targets := Catalog.updateFiles request.options request.source targets tree
    let command targets := updating settings format request targets tree
    (∀ updates, (files front).outcome = .ok updates →
      Catalog.read (files front).tree bad = .error fault →
        files (front ++ bad :: back) = { files front with outcome := .error fault }) ∧
    ((command front).status = 0 → Catalog.read (command front).tree bad = .error fault →
      (command (front ++ bad :: back)).status = 1 ∧
        (command (front ++ bad :: back)).tree = (command front).tree) ∧
    (∀ place, place ∉ Catalog.placesOf front →
      (files front).tree.content? place = tree.content? place ∧
        (command front).tree.content? place = tree.content? place) ∧
    (Catalog.read tree bad = .error fault →
      (Path.ofText bad).resolve ∉ Catalog.placesOf front →
        Catalog.read (files front).tree bad = .error fault ∧
          Catalog.read (command front).tree bad = .error fault) := by
  intro files command
  have filesTouched : Touched (Catalog.placesOf front) tree (files front).tree :=
    Catalog.touched_updateFiles _ _ front tree
  have commandTouched : Touched (Catalog.placesOf front) tree (command front).tree :=
    @touched_runUpdate settings { request with targets := front } ⟨tree, [], []⟩
  refine ⟨fun updates ended unreadable => ?_, fun ended unreadable => ?_, fun place other => ?_,
    fun unreadable other => ?_⟩
  · exact Catalog.updateFiles_of_unreadable ended unreadable back
  · exact runUpdate_of_unreadable ended unreadable back
  · exact ⟨filesTouched.others place other, commandTouched.others place other⟩
  · exact ⟨Catalog.read_error_of_touched filesTouched other unreadable,
      Catalog.read_error_of_touched commandTouched other unreadable⟩

section

def spoilt : Tree :=
  ⟨[(["en.json"], Text.encode "\x7b\"k\": \"v\"\x7d".toList),
    (["bad.json"], Text.encode "[]".toList)], []⟩

def spoiltRequest : UpdateRequest := ⟨"en.json", [], .default, false⟩

theorem update_of_unreadable_spoilt :
    let files := fun targets => Catalog.updateFiles .default "en.json" targets spoilt
    let command := fun targets =>
      updating Settings.default.catalog .bare spoiltRequest targets spoilt
    let targets := ["fr.json", "bad.json", "de.json"]
    (files targets).outcome = .error ⟨"bad.json", .notObject⟩ ∧ (command targets).status = 1 ∧
      (files targets).tree = (files ["fr.json"]).tree ∧
      (command targets).tree = (command ["fr.json"]).tree := by
  intro files command targets
  obtain ⟨library, commands, -, still⟩ :=
    update_of_unreadable Settings.default.catalog .bare spoiltRequest ["fr.json"] "bad.json"
      ["de.json"] spoilt ⟨"bad.json", .notObject⟩
  obtain ⟨filesStill, commandStill⟩ := still (by decide +kernel) (by decide +kernel)
  have stopped := library [⟨"fr.json", 1⟩] (by decide +kernel) filesStill
  have ended := commands (by decide +kernel) commandStill
  refine ⟨congrArg (·.outcome) stopped, ended.1, ?_, ended.2⟩
  exact congrArg (·.tree) stopped

/-- Before the file that holds no catalog is come to, it has been written under another name, or the
    run has ended at a target in what is no folder. -/
theorem update_despite_unreadable :
    let files := fun targets => Catalog.updateFiles .default "en.json" targets spoilt
    let command := fun targets =>
      updating Settings.default.catalog .bare spoiltRequest targets spoilt
    let readable := fun path => (Catalog.read spoilt path).toBool
    (readable "d/../bad.json" = true ∧ readable "bad.json" = false ∧
      (files ["d/../bad.json", "bad.json"]).outcome =
        .ok [⟨"d/../bad.json", 1⟩, ⟨"bad.json", 1⟩] ∧
      (command ["d/../bad.json", "bad.json"]).status = 0) ∧
    readable "a" = true ∧ readable "a/b.json" = true ∧
      (files ["a", "a/b.json", "bad.json"]).outcome = .error ⟨"a/b.json", .file .notFolder⟩ := by
  decide +kernel

end

def changeLines (path : String) (added : List Entry) (removed : List String) : List Line :=
  .coloured .cyan ("\nChanges for " ++ path ++ ":") ::
    added.map (fun entry => .coloured .green ("  + " ++ entry.1 ++ ": " ++ entry.2)) ++
    removed.map fun key => .coloured .red ("  - " ++ key)

section

variable {settings : CatalogSettings} {format : LogFormat} {request : UpdateRequest} {path : String}
  {tree : Tree} {source target : Catalog}

theorem yields_runUpdate_single {after : Session} :
    Yields (runUpdate settings { request with targets := [path] }) ⟨tree, [], []⟩ () after ↔
      ∃ source target final, Catalog.read tree request.source = .ok source ∧
        Catalog.read tree path = .ok target ∧
        (if request.dryRun then final = tree
        else Catalog.write tree path settings.sorted.isGiven settings.pretty.isGiven
          (Catalog.reconcile request.options source target) = .ok final) ∧
        after =
          ⟨final,
            (if request.dryRun then
              updatePreview path target (Catalog.reconcile request.options source target)
            else []) ++ [updatedLine 1],
            absenceRecords tree request.source ++ targetLog request source target path tree⟩ := by
  have single (source : Catalog) (before after : Session) :
      Yields ([path].forM (updateTarget settings { request with targets := [path] } source)) before ()
        after ↔ Yields (updateTarget settings request source path) before () after := by
    change Yields (updateTarget settings request source path >>= fun _ => pure ()) before () after ↔ _
    rw [yields_bind]
    constructor
    · rintro ⟨_, _, first, rest⟩
      cases rest
      exact first
    · exact fun first => ⟨(), after, first, rfl⟩
  rw [yields_runUpdate]
  simp only [single, yields_updateTarget]
  constructor
  · rintro ⟨source, _, there, ⟨target, final, found, written, rfl⟩, rfl⟩
    exact ⟨source, target, final, there, found, written, rfl⟩
  · rintro ⟨source, target, final, there, found, written, rfl⟩
    exact ⟨source, _, there, ⟨target, final, found, written, rfl⟩, rfl⟩

def updatingOne (settings : CatalogSettings) (format : LogFormat) (request : UpdateRequest)
    (path : String) (dryRun : Bool) (tree : Tree) : Outcome :=
  updating settings format { request with dryRun } [path] tree

theorem tree_updatingOne_dry : (updatingOne settings format request path true tree).tree = tree :=
  Outcome.tree_ofAct (filesKept_runUpdate rfl)

variable (there : Catalog.read tree request.source = .ok source)
  (found : Catalog.read tree path = .ok target)

include there found

theorem updatingOne_dry :
    (updatingOne settings format request path true tree).status = 0 ∧
      (updatingOne settings format request path true tree).output =
        updatePreview path target (Catalog.reconcile request.options source target) ++
          [updatedLine 1] := by
  have ends := (@yields_runUpdate_single settings { request with dryRun := true } path tree _).2
    ⟨source, target, tree, there, found, rfl, rfl⟩
  have outcome := @Outcome.ofAct_of_yields tree format _ _ _ ends
  exact ⟨congrArg (·.status) outcome, congrArg (·.output) outcome⟩

theorem written_of_updatingOne
    (ended : (updatingOne settings format request path false tree).status = 0) :
    Catalog.write tree path settings.sorted.isGiven settings.pretty.isGiven
      (Catalog.reconcile request.options source target) =
        .ok (updatingOne settings format request path false tree).tree := by
  obtain ⟨after, ends⟩ := Outcome.yields_of_status quitsFailing_runUpdate ended
  obtain ⟨source', target', final, there', found', written, rfl⟩ := yields_runUpdate_single.1 ends
  obtain rfl := Except.ok.inj (there.symm.trans there')
  obtain rfl := Except.ok.inj (found.symm.trans found')
  have files : (updatingOne settings format request path false tree).tree = final :=
    congrArg (·.tree) (@Outcome.ofAct_of_yields tree format _ _ _ ends)
  rw [files]
  exact written

end

/-- A dry run changes no file, and lists the keys that are added and removed. Besides these, the run
    itself changes the texts that are replaced or marked, and none of their keys is listed. -/
theorem updatingOne_preview (settings : CatalogSettings) (format : LogFormat)
    (request : UpdateRequest) (path : String) (tree : Tree) :
    let run dryRun := updatingOne settings format request path dryRun tree
    (run true).tree = tree ∧
    ∀ source before, Catalog.read tree request.source = .ok source →
      Catalog.read tree path = .ok before →
      ∃ added removed,
        (run true).status = 0 ∧
        (run true).output = changeLines path added removed ++ [updatedLine 1] ∧
        ((run false).status = 0 →
          ∃ after, Catalog.read (run false).tree path = .ok after ∧
            (∀ key, key ∈ Entry.keys added ↔ key ∉ before.keys ∧ key ∈ after.keys) ∧
            (∀ entry ∈ added, after.get? entry.1 = some entry.2) ∧
            (∀ key, key ∈ removed ↔ key ∈ before.keys ∧ key ∉ after.keys) ∧
            (∀ key, after.get? key ≠ before.get? key ↔
              (key ∈ Entry.keys added ∨ key ∈ removed) ∨
                Catalog.Rewritten request.options source before key) ∧
            ∀ key, Catalog.Rewritten request.options source before key →
              key ∉ Entry.keys added ∧ key ∉ removed) := by
  intro run
  refine ⟨tree_updatingOne_dry, fun source before there found => ?_⟩
  let result := Catalog.reconcile request.options source before
  obtain ⟨ended, output⟩ := @updatingOne_dry settings format _ _ _ _ _ there found
  refine ⟨_, _, ended, output, fun ended => ?_⟩
  have written := written_of_updatingOne there found ended
  obtain ⟨after, stored, perm, -⟩ := Catalog.exists_read_of_write written
  have keys (key : String) : key ∈ after.keys ↔ key ∈ result.keys := Catalog.mem_keys_of_perm perm
  have texts (key : String) : after.get? key = result.get? key := Catalog.get?_of_perm perm key
  have added (key : String) : key ∈ Entry.keys (result.entries.filter fun entry =>
      !before.contains entry.1) ↔ key ∉ before.keys ∧ key ∈ after.keys := by
    rw [Entry.keys_filter fun key => !before.contains key, keys]
    simp [Catalog.contains, Catalog.keys, and_comm]
  have removed (key : String) : key ∈ (before.keys.filter fun key => !result.contains key) ↔
      key ∈ before.keys ∧ key ∉ after.keys := by
    rw [keys]
    simp [Catalog.contains]
  refine ⟨after, stored, added, fun entry member => ?_, removed, fun key => ?_, fun key rewritten => ?_⟩
  · rw [texts]
    exact Catalog.get?_of_mem (List.mem_filter.1 member).1
  · rw [added, removed, texts, keys]
    exact Catalog.get?_reconcile_ne_iff request.options source before key
  · rw [added, removed, keys]
    have both := rewritten.mem_keys
    exact ⟨fun new => new.1 both.1, fun gone => gone.2 both.2⟩

section

def catalogs (source target : String) : Tree :=
  ⟨[(["en.json"], Text.encode source.toList), (["fr.json"], Text.encode target.toList)], []⟩

def swapped : Tree := catalogs "\x7b\"a\": \"A\"\x7d" "\x7b\"b\": \"B\"\x7d"

def flushRequest : UpdateRequest := ⟨"en.json", [], ⟨true, false, false⟩, false⟩

theorem updatingOne_preview_swapped :
    let run dryRun := updatingOne Settings.default.catalog .bare flushRequest "fr.json" dryRun swapped
    (run true).tree = swapped ∧
      ∃ added removed before after,
        (run true).output = changeLines "fr.json" added removed ++ [updatedLine 1] ∧
        Catalog.read swapped "fr.json" = .ok before ∧
        Catalog.read (run false).tree "fr.json" = .ok after ∧
        ∀ key, after.get? key ≠ before.get? key ↔ key ∈ Entry.keys added ∨ key ∈ removed := by
  have there : Catalog.read swapped "en.json" = .ok ⟨[("a", "A")], by decide⟩ := by decide +kernel
  have found : Catalog.read swapped "fr.json" = .ok ⟨[("b", "B")], by decide⟩ := by decide +kernel
  obtain ⟨kept, preview⟩ :=
    updatingOne_preview Settings.default.catalog .bare flushRequest "fr.json" swapped
  obtain ⟨added, removed, -, output, real⟩ := preview _ _ there found
  obtain ⟨after, stored, -, -, -, changes, -⟩ := real (by decide +kernel)
  refine ⟨kept, added, removed, _, after, output, found, stored, fun key => (changes key).trans ?_⟩
  refine or_iff_left ?_
  rintro ⟨_, _, _, _, ⟨asked, _⟩ | ⟨_, asked, _⟩⟩ <;> cases asked

/-- An untranslated text that is replaced is not listed, although it changes. -/
theorem updatingOne_preview_untranslated :
    let tree := catalogs "\x7b\"k\": \"v\"\x7d" "\x7b\"k\": \"k\"\x7d"
    let run dryRun := updatingOne Settings.default.catalog .bare
      ⟨"en.json", [], ⟨false, true, false⟩, false⟩ "fr.json" dryRun tree
    (run true).output = changeLines "fr.json" [] [] ++ [updatedLine 1] ∧
      (run false).status = 0 ∧
      (Catalog.read tree "fr.json").toOption.map (·.entries) = some [("k", "k")] ∧
      (Catalog.read (run false).tree "fr.json").toOption.map (·.entries) = some [("k", "v")] := by
  decide +kernel

end

end Phrasebook.CommandLine
