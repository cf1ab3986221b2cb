import Phrasebook.Proofs.Call
import Phrasebook.Proofs.Catalog.File
import Phrasebook.Proofs.Catalog.Settled
import Phrasebook.Proofs.CommandLine.Act
import Phrasebook.Proofs.Extraction.Selection
import Phrasebook.Proofs.Firsts

namespace Phrasebook.CommandLine

structure Job where
  root : String
  output : String
  options : ExtractOptions
  deriving DecidableEq

namespace Job

def of (settings : ExtractSettings) (request : ExtractRequest) : Except Failure Job := do
  let plan ← ExtractPlan.of settings request
  return ⟨← plan.source, ← plan.output, ⟨← plan.includes, plan.excludes, plan.names, plan.fallback⟩⟩

def registry (job : Job) (installation : Installation) : Registry :=
  standardRegistry installation { job.options with includes := [] }

def files (job : Job) (tree : Tree) : Except GlobFault (List Path) :=
  Selection.enumerate tree job.root job.options.includes job.options.excludes

def run (job : Job) (installation : Installation) (place : String) (tree : Tree) :
    Except GlobFault Extraction.FolderRun :=
  Extraction.fromFolder installation.parsers tree job.options (job.registry installation)
    (place ++ "/") job.root

def items (job : Job) (installation : Installation) (place : String) (tree : Tree) :
    Except GlobFault (List Item) :=
  (job.run installation place tree).map (·.items)

def log (job : Job) (installation : Installation) (tree : Tree) (run : Extraction.FolderRun) :
    List Record :=
  ⟨.info, origin, pluginsMessage (job.registry installation)⟩ :: run.events.map eventRecord ++
    absenceRecords tree job.output

theorem of_eq_ok_iff {settings : ExtractSettings} {request : ExtractRequest} {job : Job} :
    of settings request = .ok job ↔
      ∃ plan includes, ExtractPlan.of settings request = .ok plan ∧ plan.source = .ok job.root ∧
        plan.includes = .ok includes ∧ plan.output = .ok job.output ∧
        job.options = ⟨includes, plan.excludes, plan.names, plan.fallback⟩ := by
  unfold of
  simp only [bind_eq_ok_iff, pure, Except.pure, Except.ok.injEq]
  constructor
  · rintro ⟨plan, planned, root, hroot, output, houtput, includes, hincludes, rfl⟩
    exact ⟨plan, includes, planned, hroot, hincludes, houtput, rfl⟩
  · rintro ⟨plan, includes, planned, hroot, hincludes, houtput, options⟩
    exact ⟨plan, planned, _, hroot, _, houtput, _, hincludes, by rw [← options]⟩

end Job

def summary (items : List Item) : List Line :=
  [.coloured .cyan ("\nScanned " ++ toString items.length ++ " occurrences"),
    .coloured .cyan ("Found " ++ toString (keysOfItems items).length ++ " unique strings"),
    [⟨some .cyan, [.text "Time: ", .elapsed, .text "s"]⟩]]

section

open Act

variable {installation : Installation} {place : String} {settings : Settings}
  {request : ExtractRequest} {before after : Session} {u : Unit}

section

variable {settings : CatalogSettings} {dryRun : Bool} {output : String} {keys : List Wording}
  {existing : Catalog}

theorem not_yields_useKeys (unspelled : keys.mapM Wording.text? = none) :
    ¬ Yields (useKeys settings dryRun output keys existing) before u after := by
  unfold useKeys
  rw [unspelled]
  cases dryRun <;> simp [yields_bind, not_yields_fail]

theorem yields_useKeys :
    Yields (useKeys settings dryRun output keys existing) before u after ↔
      ∃ texts tree, keys = texts.map Wording.ofString ∧
        (if dryRun then tree = before.tree
        else Catalog.write before.tree output settings.sorted.isGiven settings.pretty.isGiven
          (Catalog.reconcile .default (Catalog.ofKeys texts) existing) = .ok tree) ∧
        after =
          ⟨tree,
            before.output ++ (if dryRun then extractPreview (Catalog.ofKeys texts) existing else []),
            before.log⟩ := by
  cases spelled : keys.mapM Wording.text? with
  | none =>
    refine iff_of_false (not_yields_useKeys spelled) ?_
    rintro ⟨texts, _, same, _⟩
    rw [Wording.mapM_text?_eq_some_iff.2 same] at spelled
    cases spelled
  | some texts =>
    obtain rfl := Wording.mapM_text?_eq_some_iff.1 spelled
    have same : ∀ others : List String,
        texts.map Wording.ofString = others.map Wording.ofString ↔ others = texts := fun others =>
      ⟨fun alike => (List.map_injective_iff.2 Wording.ofString_injective alike).symm,
        fun alike => congrArg _ alike.symm⟩
    unfold useKeys
    rw [spelled]
    cases dryRun <;> simp [same, yields_printAll, yields_writeCatalog]

end

theorem yields_runExtract :
    Yields (runExtract installation place settings request) before u after ↔
      ∃ job run existing keys tree, Job.of settings.extract request = .ok job ∧
        job.run installation place before.tree = .ok run ∧
        Catalog.read before.tree job.output = .ok existing ∧
        keysOfItems run.items = keys.map Wording.ofString ∧
        (if request.dryRun then tree = before.tree
        else Catalog.write before.tree job.output settings.catalog.sorted.isGiven
          settings.catalog.pretty.isGiven
          (Catalog.reconcile .default (Catalog.ofKeys keys) existing) = .ok tree) ∧
        after =
          ⟨tree,
            before.output ++
              ((if request.dryRun then extractPreview (Catalog.ofKeys keys) existing else []) ++
                summary run.items),
            before.log ++ job.log installation before.tree run⟩ := by
  unfold runExtract
  simp only [yields_bind, yields_require, yields_log, yields_extractFrom, yields_readCatalog,
    yields_useKeys, yields_print]
  constructor
  · rintro ⟨plan, _, ⟨planned, rfl⟩, _, _, rfl, root, _, ⟨hroot, rfl⟩, includes, _, ⟨hincludes, rfl⟩,
      items, _, ⟨run, found, rfl, rfl⟩, output, _, ⟨houtput, rfl⟩, existing, _, ⟨there, rfl⟩,
      _, _, ⟨keys, tree, spelled, written, rfl⟩, _, _, rfl, _, _, rfl, rfl⟩
    refine ⟨⟨root, output, ⟨includes, plan.excludes, plan.names, plan.fallback⟩⟩, run, existing, keys,
      tree, Job.of_eq_ok_iff.2 ⟨plan, includes, planned, hroot, hincludes, houtput, rfl⟩, found, there,
      spelled, written, ?_⟩
    simp [summary, Job.log, Job.registry]
  · rintro ⟨job, run, existing, keys, tree, given, found, there, spelled, written, rfl⟩
    obtain ⟨plan, includes, planned, hroot, hincludes, houtput, options⟩ := Job.of_eq_ok_iff.1 given
    rw [Job.run, Job.registry, options] at found
    refine ⟨plan, _, ⟨planned, rfl⟩, (), _, rfl, job.root, _, ⟨hroot, rfl⟩, _, _, ⟨hincludes, rfl⟩,
      _, _, ⟨run, found, rfl, rfl⟩, _, _, ⟨houtput, rfl⟩, _, _, ⟨there, rfl⟩,
      (), _, ⟨keys, tree, spelled, written, rfl⟩, (), _, rfl, (), _, rfl, ?_⟩
    simp [summary, Job.log, Job.registry, options]

theorem always_runExtract {allowed : Tree → Option Stop → Tree → Prop} (closed : Closed allowed)
    (writes : request.dryRun = false → ∀ path, Always allowed (writeNothing path) ∧
      ∀ catalog, Always allowed (writeCatalog settings.catalog path catalog)) :
    Always allowed (runExtract installation place settings request) := by
  have uses : ∀ output keys existing,
      Always allowed (useKeys settings.catalog request.dryRun output keys existing) := by
    intro output keys existing
    unfold useKeys
    split
    · exact closed.printAll _
    · rename_i real
      exact (writes real output).2 _
    · exact closed.bind (closed.printAll _) fun _ => closed.fail _
    · rename_i real
      exact closed.bind (writes real output).1 fun _ => closed.fail _
  unfold runExtract
  refine closed.bind (closed.require _) fun plan => ?_
  refine closed.bind (closed.log _ _) fun _ => ?_
  refine closed.bind (closed.require _) fun source => ?_
  refine closed.bind (closed.require _) fun includes => ?_
  refine closed.bind (closed.extractFrom _ _ _ _ _) fun items => ?_
  refine closed.bind (closed.require _) fun output => ?_
  refine closed.bind (closed.readCatalog _) fun existing => ?_
  refine closed.bind (uses _ _ _) fun _ => ?_
  exact closed.bind (closed.print _) fun _ => closed.bind (closed.print _) fun _ => closed.print _

theorem quitsFailing_runExtract :
    Always quitsFailing (runExtract installation place settings request) :=
  always_runExtract closed_quitsFailing fun _ path =>
    ⟨quitsFailing_writeNothing path, quitsFailing_writeCatalog _ path⟩

theorem filesKept_runExtract (dry : request.dryRun = true) :
    Always filesKept (runExtract installation place settings request) :=
  always_runExtract closed_filesKept fun real => nomatch dry.symm.trans real

end

def newKeys (keys : List String) (existing : Catalog) : List String :=
  keys.filter fun key => key ∉ existing.keys

theorem entries_ofKeys {keys : List String} (distinct : keys.Nodup) :
    (Catalog.ofKeys keys).entries = keys.map fun key => (key, key) := by
  have apart : (Entry.keys (keys.map fun key => (key, key))).Nodup := by
    rw [Entry.keys, List.map_map]
    exact (List.map_id keys).symm ▸ distinct
  exact Catalog.entries_foldl_insert apart

theorem keys_ofKeys {keys : List String} (distinct : keys.Nodup) : (Catalog.ofKeys keys).keys = keys := by
  rw [Catalog.keys, entries_ofKeys distinct, Entry.keys, List.map_map]
  exact List.map_id keys

def keyAfter? (mark : String) : Line → Option String
  | [⟨_, [.text text]⟩] =>
    if mark.toList.isPrefixOf text.toList then
      some (String.ofList (text.toList.drop mark.toList.length))
    else none
  | _ => none

def keysAfter (mark : String) (lines : List Line) : List String := lines.filterMap (keyAfter? mark)

section

variable {mark : String} {colour : Colour}

theorem keyAfter?_mark (key : String) :
    keyAfter? mark (.coloured colour (mark ++ key)) = some key := by
  simp [Line.coloured, keyAfter?]

theorem keyAfter?_other {text : String} (other : ¬ mark.toList <+: text.toList) :
    keyAfter? mark (.coloured colour text) = none := by
  simp [Line.coloured, keyAfter?, other]

theorem keysAfter_append (front back : List Line) :
    keysAfter mark (front ++ back) = keysAfter mark front ++ keysAfter mark back :=
  List.filterMap_append

theorem keysAfter_cons_other {text : String} (other : ¬ mark.toList <+: text.toList)
    (lines : List Line) : keysAfter mark (.coloured colour text :: lines) = keysAfter mark lines :=
  List.filterMap_cons_none (keyAfter?_other other)

theorem keysAfter_marked (keys : List String) :
    keysAfter mark (keys.map fun key => .coloured colour (mark ++ key)) = keys := by
  have each : (keyAfter? mark ∘ fun key => .coloured colour (mark ++ key)) = some :=
    funext keyAfter?_mark
  rw [keysAfter, List.filterMap_map, each, List.filterMap_some]

theorem keysAfter_others {front : String} (other : ∀ key, ¬ mark.toList <+: (front ++ key).toList)
    (keys : List String) :
    keysAfter mark (keys.map fun key => .coloured colour (front ++ key)) = [] := by
  rw [keysAfter, List.filterMap_map, List.filterMap_eq_nil_iff]
  exact fun key _ => keyAfter?_other (other key)

end

theorem keysAfter_preview {mark : String} (spaced : ∃ rest, mark.toList = ' ' :: rest)
    (found existing : Catalog) (items : List Item) :
    keysAfter mark (extractPreview found existing ++ summary items) =
      keysAfter mark ((found.keys.filter fun key => !existing.contains key).map
          fun key => .coloured .green ("  + " ++ key)) ++
        keysAfter mark ((Catalog.unused found existing).map
          fun key => .coloured .yellow ("  ? " ++ key)) := by
  obtain ⟨rest, begins⟩ := spaced
  have ending : keysAfter mark (summary items) = [] := by
    unfold summary
    rw [keysAfter_cons_other (by simp [begins]), keysAfter_cons_other (by simp [begins])]
    rfl
  have headed : ∀ lines,
      keysAfter mark (.coloured .yellow "\nKeys in locale but not in source:" :: lines) =
        keysAfter mark lines := keysAfter_cons_other (by simp [begins])
  unfold extractPreview additionLines
  dsimp only
  rw [keysAfter_append, ending, List.append_nil, List.cons_append,
    keysAfter_cons_other (by simp [begins]), keysAfter_append]
  congr 1
  cases Catalog.unused found existing with
  | nil => rfl
  | cons key keys => exact headed _

theorem keysAfter_added (found existing : Catalog) (items : List Item) :
    keysAfter "  + " (extractPreview found existing ++ summary items) =
      found.keys.filter fun key => !existing.contains key := by
  rw [keysAfter_preview ⟨_, rfl⟩, keysAfter_marked, keysAfter_others (by simp), List.append_nil]

theorem keysAfter_unused (found existing : Catalog) (items : List Item) :
    keysAfter "  ? " (extractPreview found existing ++ summary items) =
      Catalog.unused found existing := by
  rw [keysAfter_preview ⟨_, rfl⟩, keysAfter_marked, keysAfter_others (by simp), List.nil_append]

theorem entries_reconcile_ofKeys {keys : List String} (distinct : keys.Nodup) (existing : Catalog) :
    (Catalog.reconcile .default (Catalog.ofKeys keys) existing).entries =
      existing.entries ++ (newKeys keys existing).map fun key => (key, key) := by
  rw [Catalog.entries_reconcile_default, entries_ofKeys distinct, newKeys, List.filter_map]
  rfl

structure Gathered (installation : Installation) (tree : Tree) (place : String) (settings : Settings)
    (request : ExtractRequest) (job : Job) (items : List Item) (keys : List String)
    (existing : Catalog) : Prop where
  given : Job.of settings.extract request = .ok job
  found : job.items installation place tree = .ok items
  /-- The keys of the items in the order in which they are found first. All of them can be written. -/
  spelled : (Item.dedupe items).map Item.key = keys.map Wording.ofString
  there : Catalog.read tree job.output = .ok existing

def Job.Apart (job : Job) (tree : Tree) : Prop :=
  ∀ files, job.files tree = .ok files → ∀ file ∈ files,
    file.resolve ≠ (Path.ofText job.output).resolve

section

variable {installation : Installation} {tree after : Tree} {place : String} {settings : Settings}
  {request : ExtractRequest} {format : LogFormat} {job : Job} {items : List Item}
  {keys : List String} {existing : Catalog}

theorem gathered_of_status
    (h : (Outcome.ofAct tree format (runExtract installation place settings request)).status = 0) :
    ∃ job items keys existing,
      Gathered installation tree place settings request job items keys existing := by
  obtain ⟨after, ends⟩ := Outcome.yields_of_status quitsFailing_runExtract h
  obtain ⟨job, run, existing, keys, _, given, found, there, spelled, _⟩ := yields_runExtract.1 ends
  rw [keysOfItems, Merged.map_key_ofItems] at spelled
  exact ⟨job, run.items, keys, existing, given, by rw [Job.items, found]; rfl, spelled, there⟩

def updated (keys : List String) (existing : Catalog) : Catalog :=
  Catalog.reconcile .default (Catalog.ofKeys keys) existing

namespace Gathered

theorem dryRun_iff (dryRun : Bool) :
    Gathered installation tree place settings { request with dryRun } job items keys existing ↔
      Gathered installation tree place settings request job items keys existing := by
  constructor
  · exact fun ⟨given, found, spelled, there⟩ => ⟨given, found, spelled, there⟩
  · exact fun ⟨given, found, spelled, there⟩ => ⟨given, found, spelled, there⟩

variable (gathered : Gathered installation tree place settings request job items keys existing)

include gathered

theorem keysOfItems_eq : keysOfItems items = keys.map Wording.ofString := by
  rw [keysOfItems, Merged.map_key_ofItems]
  exact gathered.spelled

theorem nodup : keys.Nodup := by
  have distinct := (areFirsts_firstsBy Item.key items).distinct
  exact .of_map _ (gathered.spelled ▸ distinct)

theorem mem_keys_iff (key : String) : key ∈ keys ↔ Wording.ofString key ∈ items.map (·.key) := by
  have firsts := areFirsts_firstsBy Item.key items
  rw [← List.mem_map_of_injective Wording.ofString_injective, ← gathered.spelled]
  constructor
  · exact fun member => (firsts.sublist.map _).subset member
  · intro member
    obtain ⟨item, inside, same⟩ := List.mem_map.1 member
    exact same ▸ firsts.complete item inside

theorem ofAct_eq (format : LogFormat) (after : Tree) (written : if request.dryRun then after = tree
    else Catalog.write tree job.output settings.catalog.sorted.isGiven
      settings.catalog.pretty.isGiven (updated keys existing) = .ok after) :
    ∃ log, Outcome.ofAct tree format (runExtract installation place settings request) =
      ⟨0, none, after,
        (if request.dryRun then extractPreview (Catalog.ofKeys keys) existing else []) ++
          summary items, log, format⟩ := by
  have spelled := gathered.keysOfItems_eq
  obtain ⟨run, found, rfl⟩ := map_eq_ok_iff.1 gathered.found
  have ends := (@yields_runExtract installation place settings request ⟨tree, [], []⟩ _ ()).2
    ⟨job, run, existing, keys, after, gathered.given, found, gathered.there, spelled, written, rfl⟩
  rw [Outcome.ofAct_of_yields ends, List.nil_append]
  exact ⟨_, rfl⟩

theorem written_of_status (real : request.dryRun = false)
    (h : (Outcome.ofAct tree format (runExtract installation place settings request)).status = 0) :
    Catalog.write tree job.output settings.catalog.sorted.isGiven settings.catalog.pretty.isGiven
        (updated keys existing) =
      .ok (Outcome.ofAct tree format (runExtract installation place settings request)).tree := by
  have mine := gathered.keysOfItems_eq
  obtain ⟨after, ends⟩ := Outcome.yields_of_status quitsFailing_runExtract h
  rw [Outcome.ofAct_of_yields ends]
  obtain ⟨other, run, catalog, others, tree', given, found, there, spelled, written, rfl⟩ :=
    yields_runExtract.1 ends
  obtain rfl := Except.ok.inj (gathered.given.symm.trans given)
  obtain rfl := Except.ok.inj (gathered.there.symm.trans there)
  have same : job.items installation place tree = .ok run.items := by rw [Job.items, found]; rfl
  rw [← Except.ok.inj (gathered.found.symm.trans same), mine] at spelled
  obtain rfl := List.map_injective_iff.2 Wording.ofString_injective spelled
  rw [real, if_neg Bool.false_ne_true] at written
  exact written

/-- A second run finds what the first has written, provided it finds the same keys in the sources. -/
theorem again (written : Catalog.write tree job.output settings.catalog.sorted.isGiven
      settings.catalog.pretty.isGiven (updated keys existing) = .ok after)
    (same : job.items installation place after = .ok items) (real : request.dryRun = false) :
    (Outcome.ofAct after format (runExtract installation place settings request)).status = 0 ∧
      (Outcome.ofAct after format (runExtract installation place settings request)).tree = after := by
  obtain ⟨stored, read, perm, unchanged⟩ := Catalog.exists_read_of_write written
  have next : Gathered installation after place settings request job items keys stored :=
    ⟨gathered.given, same, gathered.spelled, read⟩
  have complete : updated keys stored = stored :=
    Catalog.reconcile_default_eq_self fun key member =>
      (Catalog.mem_keys_of_perm perm).2 (Catalog.mem_keys_reconcile member)
  obtain ⟨log, ends⟩ := next.ofAct_eq format after (by rw [real, complete]; exact unchanged)
  rw [ends]
  exact ⟨rfl, rfl⟩

end Gathered

end

theorem Job.items_of_write {tree after : Tree} (proper : tree.Proper) {job : Job}
    {bytes : List UInt8} (h : tree.write (Path.ofText job.output) bytes = .ok after)
    (apart : job.Apart after)
    (steady : Selection.Downward job.options.includes ∨ job.files after = job.files tree)
    (installation : Installation) (place : String) :
    job.items installation place after = job.items installation place tree := by
  have again : job.files after = job.files tree :=
    steady.elim (fun down => Selection.enumerate_of_write proper h down apart) id
  rw [Job.items, Job.items, Job.run, Job.run,
    Extraction.fromFolder_of_write proper h again apart]

def extraction (installation : Installation) (place : String) (settings : Settings) (format : LogFormat)
    (request : ExtractRequest) (dryRun : Bool) (tree : Tree) : Outcome :=
  Outcome.ofAct tree format (runExtract installation place settings { request with dryRun })

/-- Extracting keeps every text of the catalog and adds the keys that are new to it, each as its own
    text. A dry run lists those and the keys not found, and changes nothing. Extracting again changes
    nothing either, unless a pattern leads back up through a folder that was made for the catalog. -/
theorem runExtract_effects (installation : Installation) (tree : Tree) (place : String)
    (settings : Settings) (format : LogFormat) (request : ExtractRequest) :
    let run := extraction installation place settings format request
    (run true tree).tree = tree ∧
    (∀ dryRun, (run dryRun tree).status = 0 → ∃ job items keys existing,
      Gathered installation tree place settings request job items keys existing) ∧
    ∀ job items keys existing,
      Gathered installation tree place settings request job items keys existing →
      ((run true tree).status = 0 ∧
        keysAfter "  + " (run true tree).output = newKeys keys existing ∧
        keysAfter "  ? " (run true tree).output =
          existing.keys.filter fun key => Wording.ofString key ∉ items.map (·.key)) ∧
      ((run false tree).status = 0 →
        (∃ result, Catalog.read (run false tree).tree job.output = .ok result ∧
          result.entries.Perm
            (existing.entries ++ (newKeys keys existing).map fun key => (key, key))) ∧
        (∀ path, path ≠ (Path.ofText job.output).resolve →
          (run false tree).tree.content? path = tree.content? path) ∧
        (tree.Proper → job.Apart (run false tree).tree →
          Selection.Downward job.options.includes ∨
            job.files (run false tree).tree = job.files tree →
          (run false (run false tree).tree).status = 0 ∧
            (run false (run false tree).tree).tree = (run false tree).tree)) := by
  intro run
  refine ⟨Outcome.tree_ofAct (filesKept_runExtract rfl), fun dryRun ended => ?_,
    fun job items keys existing gathered => ⟨?_, fun ended => ?_⟩⟩
  · obtain ⟨job, items, keys, existing, gathered⟩ := gathered_of_status ended
    exact ⟨job, items, keys, existing, (Gathered.dryRun_iff dryRun).1 gathered⟩
  · have preview := (Gathered.dryRun_iff true).2 gathered
    obtain ⟨log, ends⟩ := preview.ofAct_eq format tree rfl
    have shown : (run true tree).output =
        extractPreview (Catalog.ofKeys keys) existing ++ summary items := congrArg Outcome.output ends
    refine ⟨congrArg Outcome.status ends, ?_, ?_⟩
    · rw [shown, keysAfter_added, keys_ofKeys gathered.nodup, newKeys]
      simp [Catalog.contains]
    · rw [shown, keysAfter_unused, Catalog.unused]
      simp only [Catalog.contains, List.contains_eq_mem, keys_ofKeys gathered.nodup,
        gathered.mem_keys_iff, decide_not]
  · have writing := (Gathered.dryRun_iff false).2 gathered
    have written := writing.written_of_status rfl ended
    have stored := Catalog.write_eq_ok_iff.1 written
    obtain ⟨result, read, perm, -⟩ := Catalog.exists_read_of_write written
    refine ⟨⟨result, read, ?_⟩, fun path other => ?_, fun proper apart steady => ?_⟩
    · rw [← entries_reconcile_ofKeys gathered.nodup]
      exact perm
    · exact (Tree.content?_write stored).trans (if_neg other)
    · have same := Job.items_of_write proper stored apart steady installation place
      exact writing.again written (same.trans gathered.found) rfl

/-- A script with one key, and a catalog with another one. -/
def greeting : Tree :=
  ⟨[(["x.js"], Text.encode "t('a')".toList),
    (["en.json"], Text.encode "\x7b\"b\": \"B\"\x7d".toList)], []⟩

def greeter : Installation := ⟨[], fun _ _ => .script [.stringCall 0 1 6], fun _ => none⟩

def greetingRequest : ExtractRequest :=
  ⟨some ".", some "en.json", some "*.js", none, none, false, false⟩

def greetingJob : Job :=
  ⟨".", "en.json", ⟨["*.js"], ExtractOptions.defaultExcludes, ExtractOptions.defaultNames, false⟩⟩

theorem runExtract_effects_greeting :
    let run := extraction greeter "" Settings.default .bare greetingRequest false
    (run greeting).status = 0 ∧
      (∃ result, Catalog.read (run greeting).tree "en.json" = .ok result ∧
        result.entries.Perm [("b", "B"), ("a", "a")]) ∧
      (run (run greeting).tree).tree = (run greeting).tree := by
  obtain ⟨-, gathers, effects⟩ :=
    runExtract_effects greeter greeting "" Settings.default .bare greetingRequest
  have ended : (extraction greeter "" Settings.default .bare greetingRequest false greeting).status = 0 := by
    decide +kernel
  obtain ⟨job, items, keys, existing, gathered⟩ := gathers false ended
  obtain ⟨⟨result, read, perm⟩, -, again⟩ := (effects job items keys existing gathered).2 ended
  obtain ⟨given, found, spelled, there⟩ := gathered
  have asked : (Job.of Settings.default.extract greetingRequest).toOption = some greetingJob := by
    decide +kernel
  rw [given] at asked
  cases asked
  have yields : (greetingJob.items greeter "" greeting).toOption =
      some [.create "a" "/x.js" 1 1 none] := by
    decide +kernel
  rw [found] at yields
  cases yields
  obtain rfl : ["a"] = keys := List.map_injective_iff.2 Wording.ofString_injective spelled
  have before : (Catalog.read greeting greetingJob.output).toOption =
      some ⟨[("b", "B")], by decide⟩ := by decide +kernel
  rw [there] at before
  cases before
  have scanned : (greetingJob.files
      (extraction greeter "" Settings.default .bare greetingRequest false greeting).tree).toOption =
        some [["x.js"]] := by decide +kernel
  refine ⟨ended, ⟨result, read, perm⟩, (again ?_ (fun files listed => ?_) (.inl ?_)).2⟩
  · unfold Tree.Proper
    decide
  · rw [listed] at scanned
    cases scanned
    decide
  · unfold Selection.Downward
    decide +kernel

def detour : Tree := ⟨[(["x.js"], Text.encode "t('a')".toList)], []⟩

def detourRequest : ExtractRequest :=
  ⟨some ".", some "loc/en.json", some "loc/../x.js", none, none, false, false⟩

/-- The folder is made for the catalog, so the second run finds the script. -/
theorem runExtract_twice_detour :
    let run := extraction greeter "" Settings.default .bare detourRequest false
    let files := fun tree =>
      Selection.enumerate tree "." ["loc/../x.js"] ExtractOptions.defaultExcludes
    (files detour).toOption = some [] ∧
      (files (run detour).tree).toOption = some [["loc", "..", "x.js"]] ∧
      (run detour).status = 0 ∧
      (run detour).tree.content? ["loc", "en.json"] = some (Text.encode "\x7b\x7d\n".toList) ∧
      (run (run detour).tree).status = 0 ∧
      (run (run detour).tree).tree.content? ["loc", "en.json"] =
        some (Text.encode "\x7b\n  \"a\": \"a\"\n\x7d\n".toList) := by
  decide +kernel

end Phrasebook.CommandLine
