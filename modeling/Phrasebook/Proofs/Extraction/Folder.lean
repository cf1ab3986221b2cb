import Phrasebook.Proofs.Extraction.Defaults

namespace Phrasebook

def errorsIn (log : List Record) : List Record := log.filter (·.level == .error)

theorem errorsIn_append (log more : List Record) :
    errorsIn (log ++ more) = errorsIn log ++ errorsIn more := List.filter_append ..

theorem ComponentPlugin.errorsIn_structuralPass (plugin : ComponentPlugin) (parsers : Script.Parsers)
    (file : String) (code : List Char) : errorsIn (plugin.structuralPass parsers file code).2 = [] := by
  unfold structuralPass
  split
  · rfl
  · split <;> rfl

theorem Plugin.errorsIn_extract (plugin : Plugin) (parsers : Script.Parsers) (file : String)
    (code : List Char) : errorsIn (plugin.extract parsers file code).log = [] := by
  cases plugin with
  | script typed options => cases typed <;> rfl
  | component inner => exact inner.load.errorsIn_structuralPass parsers file code
  | custom inner => rfl

theorem Plugin.log_extractSync (plugin : Plugin) (file : String) (code : List Char) :
    (plugin.extractSync file code).log = [] := by
  cases plugin <;> rfl

end Phrasebook

namespace Phrasebook.Extraction

theorem log_withoutPlugin (parsers : Script.Parsers) (options : ExtractOptions)
    (registry : Option Registry) (file extension : String) (code : List Char) :
    (withoutPlugin parsers options registry file extension code).log = [] := by
  unfold withoutPlugin
  split
  · rfl
  · split
    · rfl
    · split
      · rfl
      · split
        · rename_i plugin _
          exact plugin.log_extractSync file code
        · rfl

theorem errorsIn_fromFile (parsers : Script.Parsers) (tree : Tree) (options : ExtractOptions)
    (registry : Option Registry) (file : String) (path : Path) :
    errorsIn (fromFile parsers tree options registry file path).log = [] := by
  unfold fromFile
  split
  · rename_i code _
    unfold ofText
    split
    · split
      · rename_i plugin _
        exact plugin.errorsIn_extract parsers file code
      · rw [log_withoutPlugin]
        rfl
    · rw [log_withoutPlugin]
      rfl
  · rfl

def itemsOf (outcomes : List (String × Except Fault (List Item))) : List Item :=
  outcomes.flatMap fun (_, outcome) =>
    match outcome with
    | .ok items => items
    | .error _ => []

def failuresOf (outcomes : List (String × Except Fault (List Item))) : List (String × Fault) :=
  outcomes.filterMap fun (name, outcome) =>
    match outcome with
    | .ok _ => none
    | .error fault => some (name, fault)

theorem itemsOf_cons (first : String × Except Fault (List Item))
    (rest : List (String × Except Fault (List Item))) :
    itemsOf (first :: rest) = itemsOf [first] ++ itemsOf rest := by simp [itemsOf]

theorem failuresOf_cons (first : String × Except Fault (List Item))
    (rest : List (String × Except Fault (List Item))) :
    failuresOf (first :: rest) = failuresOf [first] ++ failuresOf rest := by
  simp only [failuresOf, List.filterMap_cons, List.filterMap_nil]
  split <;> rfl

def visit (parsers : Script.Parsers) (tree : Tree) (options : ExtractOptions) (place : String)
    (registry : Registry) (path : Path) : FileRun :=
  fromFile parsers tree options (some registry) (place ++ path.toText) path

/-- The names and outcomes of files, each visited with the plugins as the one before has left them. -/
def outcomes (parsers : Script.Parsers) (tree : Tree) (options : ExtractOptions) (place : String) :
    Registry → List Path → List (String × Except Fault (List Item))
  | _, [] => []
  | registry, path :: rest =>
    let file := visit parsers tree options place registry path
    (place ++ path.toText, file.outcome) ::
      outcomes parsers tree options place (file.registry.getD registry) rest

section

variable (parsers : Script.Parsers) (tree : Tree) (options : ExtractOptions) (place : String)

theorem map_fst_outcomes (registry : Registry) (files : List Path) :
    (outcomes parsers tree options place registry files).map (·.1) = files.map (place ++ ·.toText) := by
  induction files generalizing registry with
  | nil => rfl
  | cons path rest ih =>
    rw [outcomes, List.map_cons, List.map_cons, ih]

def failureRecords (outcomes : List (String × Except Fault (List Item))) : List Record :=
  (failuresOf outcomes).map fun (name, fault) => FolderRun.failureRecord name fault

theorem failureRecords_cons (first : String × Except Fault (List Item))
    (rest : List (String × Except Fault (List Item))) :
    failureRecords (first :: rest) = failureRecords [first] ++ failureRecords rest := by
  rw [failureRecords, failuresOf_cons, List.map_append]
  rfl

theorem errorsIn_failureRecords (outcomes : List (String × Except Fault (List Item))) :
    errorsIn (failureRecords outcomes) = failureRecords outcomes := by
  rw [errorsIn, List.filter_eq_self]
  intro record member
  obtain ⟨failure, _, rfl⟩ := List.mem_map.1 member
  rfl

theorem records_logged (log : List Record) : (log.map Event.logged).filterMap Event.record? = log := by
  rw [List.filterMap_map]
  exact List.filterMap_some

theorem progress_logged (log : List Record) : (log.map Event.logged).filterMap Event.progress? = [] := by
  rw [List.filterMap_map, List.filterMap_eq_nil_iff]
  intro record _
  rfl

def progressOf (done total : Nat) (names : List String) : List Progress :=
  names.mapIdx fun i name => ⟨name, done + i + 1, total⟩

theorem progressOf_cons (done total : Nat) (name : String) (names : List String) :
    progressOf done total (name :: names) =
      ⟨name, done + 1, total⟩ :: progressOf (done + 1) total names := by
  rw [progressOf, List.mapIdx_cons, progressOf]
  congr 2
  funext i name
  have shifted : done + (i + 1) = done + 1 + i := by omega
  rw [shifted]

structure Extends (total : Nat) (outcomes : List (String × Except Fault (List Item)))
    (run next : FolderRun) : Prop where
  items : next.items = run.items ++ itemsOf outcomes
  failed : next.failed = run.failed ++ failuresOf outcomes
  done : next.done = run.done + outcomes.length
  errors : errorsIn next.log = errorsIn run.log ++ failureRecords outcomes
  progress : next.progress = run.progress ++ progressOf run.done total (outcomes.map (·.1))

theorem extends_nil (total : Nat) (run : FolderRun) : Extends total [] run run := by
  refine ⟨?_, ?_, rfl, ?_, ?_⟩
  all_goals exact (List.append_nil _).symm

theorem Extends.cons {total : Nat} {first : String × Except Fault (List Item)}
    {rest : List (String × Except Fault (List Item))} {run next last : FolderRun}
    (one : Extends total [first] run next) (others : Extends total rest next last) :
    Extends total (first :: rest) run last := by
  have done : next.done = run.done + 1 := one.done
  refine ⟨?_, ?_, ?_, ?_, ?_⟩
  · rw [others.items, one.items, List.append_assoc, ← itemsOf_cons]
  · rw [others.failed, one.failed, List.append_assoc, ← failuresOf_cons]
  · rw [others.done, done, List.length_cons]
    omega
  · rw [others.errors, one.errors, List.append_assoc, ← failureRecords_cons]
  · rw [others.progress, one.progress, done, List.append_assoc, List.map_singleton, List.map_cons,
      progressOf_cons, progressOf_cons]
    rfl

section

variable (total : Nat) (run : FolderRun) (path : Path)

theorem step_registry :
    (run.step parsers tree options place total path).registry =
      (visit parsers tree options place run.registry path).registry.getD run.registry := rfl

theorem step_items :
    (run.step parsers tree options place total path).items = run.items ++
      itemsOf [(place ++ path.toText, (visit parsers tree options place run.registry path).outcome)] := by
  rw [FolderRun.step, ← visit, itemsOf, List.flatMap_singleton]
  cases (visit parsers tree options place run.registry path).outcome <;> rfl

theorem step_failed :
    (run.step parsers tree options place total path).failed = run.failed ++
      failuresOf [(place ++ path.toText, (visit parsers tree options place run.registry path).outcome)] := by
  rw [FolderRun.step, ← visit]
  cases (visit parsers tree options place run.registry path).outcome <;> rfl

/-- First the log of the file and its failure, if it fails, and then in any case the progress. -/
theorem step_events :
    (run.step parsers tree options place total path).events = run.events ++
      (((visit parsers tree options place run.registry path).log ++ failureRecords
        [(place ++ path.toText, (visit parsers tree options place run.registry path).outcome)]).map .logged ++
          [.progressed ⟨place ++ path.toText, run.done + 1, total⟩]) := by
  rw [FolderRun.step, ← visit, ← List.append_assoc]
  cases (visit parsers tree options place run.registry path).outcome <;> rfl

theorem extends_step :
    Extends total [(place ++ path.toText, (visit parsers tree options place run.registry path).outcome)] run
      (run.step parsers tree options place total path) := by
  refine ⟨step_items .., step_failed .., rfl, ?_, ?_⟩
  · have quiet : errorsIn (visit parsers tree options place run.registry path).log = [] :=
      errorsIn_fromFile ..
    rw [FolderRun.log, step_events, List.filterMap_append, List.filterMap_append, records_logged,
      errorsIn_append, errorsIn_append, errorsIn_append, quiet, errorsIn_failureRecords]
    exact congrArg (errorsIn run.log ++ ·) (List.append_nil _)
  · rw [FolderRun.progress, step_events, List.filterMap_append, List.filterMap_append,
      progress_logged]
    rfl

end

theorem extends_foldl (total : Nat) (run : FolderRun) (files : List Path) :
    Extends total (outcomes parsers tree options place run.registry files) run
      (files.foldl (FolderRun.step parsers tree options place total) run) := by
  induction files generalizing run with
  | nil => exact extends_nil total run
  | cons path rest ih =>
    have others := ih (run.step parsers tree options place total path)
    rw [step_registry] at others
    exact (extends_step parsers tree options place total run path).cons others

end

/-- What it takes for a run to have covered some files, starting with the given plugins. -/
structure Covers (parsers : Script.Parsers) (tree : Tree) (options : ExtractOptions) (place : String)
    (registry : Registry) (files : List Path) (run : FolderRun) : Prop where
  /-- The items of the files that do not fail, and nothing of those that do. -/
  items : run.items = itemsOf (outcomes parsers tree options place registry files)
  failed : run.failed = failuresOf (outcomes parsers tree options place registry files)
  /-- One error for every file that fails, and no others. -/
  errors : errorsIn run.log = run.failed.map fun (name, fault) => FolderRun.failureRecord name fault
  done : run.done = files.length
  progress : run.progress = (files.map (place ++ ·.toText)).mapIdx fun i name =>
    ⟨name, i + 1, files.length⟩

theorem covers_fromFiles (parsers : Script.Parsers) (tree : Tree) (options : ExtractOptions)
    (place : String) (registry : Registry) (files : List Path) :
    Covers parsers tree options place registry files
      (fromFiles parsers tree options registry place files) := by
  have all : Extends files.length (outcomes parsers tree options place registry files)
      ⟨[], [], 0, registry, []⟩ (fromFiles parsers tree options registry place files) :=
    extends_foldl parsers tree options place files.length ⟨[], [], 0, registry, []⟩ files
  have names := map_fst_outcomes parsers tree options place registry files
  have count : (outcomes parsers tree options place registry files).length = files.length := by
    simpa using congrArg List.length names
  refine ⟨all.items, all.failed, ?_, ?_, ?_⟩
  · have failed : _ = failuresOf _ := all.failed
    rw [failed]
    exact all.errors
  · rw [all.done, count]
    exact Nat.zero_add _
  · rw [all.progress, names, progressOf]
    simp [FolderRun.progress]

/-- A run over a folder fails only if the files cannot be listed. Otherwise it covers all of them in the
    order of their paths, and no file that fails keeps it from doing so. -/
theorem fromFolder_covers (parsers : Script.Parsers) (tree : Tree) (options : ExtractOptions)
    (registry : Registry) (place root : String) :
    (∃ fault, Selection.enumerate tree root options.includes options.excludes = .error fault ∧
      fromFolder parsers tree options registry place root = .error fault) ∨
    ∃ files run, Selection.enumerate tree root options.includes options.excludes = .ok files ∧
      files.Pairwise (· < ·) ∧ fromFolder parsers tree options registry place root = .ok run ∧
      Covers parsers tree options place registry files run := by
  unfold fromFolder
  cases listed : Selection.enumerate tree root options.includes options.excludes with
  | error fault => exact .inl ⟨fault, rfl, rfl⟩
  | ok files =>
    refine .inr ⟨files, _, rfl, Selection.sorted_of_enumerate listed, rfl, ?_⟩
    obtain ⟨items, failed, errors, done, progress⟩ :=
      covers_fromFiles parsers tree options place registry files
    refine ⟨items, failed, ?_, done, ?_⟩
    · rw [← errors]
      simp [FolderRun.log, errorsIn, Event.record?, startRecord, endRecord]
    · rw [← progress]
      simp [FolderRun.progress, List.filterMap_cons, Event.progress?]

end Phrasebook.Extraction
