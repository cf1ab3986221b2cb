import Phrasebook.Extraction.Plugin
import Phrasebook.Extraction.Selection

namespace Phrasebook.Extraction

def origin : String := "i18nsync.extractor"

/-- The outcome of a file, the registry as it is afterwards, and what was logged. -/
structure FileRun where
  outcome : Except Fault (List Item)
  registry : Option Registry
  log : List Record

def FileRun.ofPlugin (registry : Registry) (result : Plugin.Extracted) : FileRun :=
  ⟨result.outcome, some (registry.register result.plugin), result.log⟩

def withoutPlugin (parsers : Script.Parsers) (options : ExtractOptions) (registry : Option Registry)
    (file extension : String) (code : List Char) : FileRun :=
  if Plugin.typedExtensions.contains extension then ⟨typed parsers options file code, registry, []⟩
  else if Plugin.untypedExtensions.contains extension then
    ⟨untyped parsers options file code, registry, []⟩
  else
    match registry with
    | none => ⟨.ok [], none, []⟩
    | some registry =>
      match registry.claimant? extension with
      | some plugin => .ofPlugin registry (plugin.extractSync file code)
      | none => ⟨.ok [], some registry, []⟩

def ofText (parsers : Script.Parsers) (options : ExtractOptions) (registry : Option Registry)
    (file extension : String) (code : List Char) : FileRun :=
  match registry with
  | some registry =>
    match registry.lookup extension with
    | some plugin => .ofPlugin registry (plugin.extract parsers file code)
    | none => withoutPlugin parsers options (some registry) file extension code
  | none => withoutPlugin parsers options none file extension code

def fromFile (parsers : Script.Parsers) (tree : Tree) (options : ExtractOptions)
    (registry : Option Registry) (file : String) (path : Path) : FileRun :=
  match tree.readText path with
  | .ok code => ofText parsers options registry file path.suffix code
  | .error fault => ⟨.error (.file fault), registry, []⟩

structure Progress where
  file : String
  current : Nat
  total : Nat
  deriving DecidableEq, Repr

inductive Event where
  | logged (record : Record)
  | progressed (progress : Progress)
  deriving DecidableEq, Repr

namespace Event

def record? : Event → Option Record
  | logged record => some record
  | progressed _ => none

def progress? : Event → Option Progress
  | logged _ => none
  | progressed progress => some progress

end Event

/-- The outcome of a folder: the items of all files that did not fail, the files that failed and why,
    and what was told on the way. -/
structure FolderRun where
  items : List Item
  failed : List (String × Fault)
  done : Nat
  registry : Registry
  events : List Event

namespace FolderRun

def progress (run : FolderRun) : List Progress := run.events.filterMap Event.progress?

def log (run : FolderRun) : List Record := run.events.filterMap Event.record?

def failureRecord (file : String) (fault : Fault) : Record :=
  ⟨.error, origin, "Error processing " ++ file ++ ": " ++ fault.message⟩

/-- Takes in one more file of a folder with `total` files; names of files begin with `place`. -/
def step (parsers : Script.Parsers) (tree : Tree) (options : ExtractOptions) (place : String)
    (total : Nat) (run : FolderRun) (path : Path) : FolderRun :=
  let name := place ++ path.toText
  let file := fromFile parsers tree options (some run.registry) name path
  let (items, failed) := match file.outcome with
    | .ok items => (items, [])
    | .error fault => ([], [(name, fault)])
  let log := file.log ++ failed.map fun (name, fault) => failureRecord name fault
  { items := run.items ++ items
    failed := run.failed ++ failed
    done := run.done + 1
    registry := file.registry.getD run.registry
    events := run.events ++ log.map .logged ++ [.progressed ⟨name, run.done + 1, total⟩] }

end FolderRun

def fromFiles (parsers : Script.Parsers) (tree : Tree) (options : ExtractOptions)
    (registry : Registry) (place : String) (files : List Path) : FolderRun :=
  files.foldl (FolderRun.step parsers tree options place files.length) ⟨[], [], 0, registry, []⟩

def startRecord (root : String) (files : Nat) : Record :=
  ⟨.info, origin, "Extracting from " ++ toString files ++ " files under " ++ root⟩

def endRecord (items files : Nat) : Record :=
  ⟨.info, origin, "Found " ++ toString items ++ " occurrences in " ++ toString files ++ " files"⟩

def fromFolder (parsers : Script.Parsers) (tree : Tree) (options : ExtractOptions)
    (registry : Registry) (place root : String) : Except GlobFault FolderRun := do
  let files ← Selection.enumerate tree root options.includes options.excludes
  let run := fromFiles parsers tree options registry place files
  let first := startRecord root files.length
  let last := endRecord run.items.length files.length
  return { run with events := .logged first :: run.events ++ [.logged last] }

end Phrasebook.Extraction
