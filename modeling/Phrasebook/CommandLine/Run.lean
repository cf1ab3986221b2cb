import Phrasebook.Catalog.Coverage
import Phrasebook.Catalog.File
import Phrasebook.CommandLine.Command
import Phrasebook.CommandLine.Output
import Phrasebook.Extraction.Run
import Phrasebook.Log.Format
import Phrasebook.Settings

namespace Phrasebook.CommandLine

inductive Failure where
  | settings (fault : Settings.Fault)
  | file (fault : FileFault)
  | glob (fault : GlobFault)
  | levelNotText
  | unknownLevel (word : String)
  | fieldlessFormat (format : String)
  /-- The value of a setting is of a type that is of no use there. -/
  | wrongType (type : String)
  /-- A key has a letter that no encoding can write. -/
  | unwritable
  deriving DecidableEq, Repr

def Failure.message : Failure → String
  | settings fault => fault.message
  | file fault => fault.message
  | glob fault => fault.message
  | levelNotText => "The level of the log is no text"
  | unknownLevel word => "Unknown level: " ++ word
  | fieldlessFormat format => "Invalid format: " ++ format
  | wrongType type => "A setting must not be of the type " ++ type
  | unwritable => "surrogates not allowed"

inductive Stop where
  | quit (status : Nat)
  | failed (failure : Failure)
  deriving DecidableEq, Repr

structure Session where
  tree : Tree
  output : List Line
  log : List Record

abbrev Act := ExceptT Stop (StateM Session)

structure Outcome where
  status : Nat
  failure : Option Failure
  tree : Tree
  output : List Line
  log : List Record
  format : LogFormat

def Outcome.errorText (outcome : Outcome) (moment : Moment) : String :=
  outcome.format.render moment outcome.log

def origin : String := "i18nsync.cli"

namespace Act

def print (line : Line) : Act Unit :=
  modify fun session => { session with output := session.output ++ [line] }

def printAll (lines : List Line) : Act Unit :=
  modify fun session => { session with output := session.output ++ lines }

def logAll (records : List Record) : Act Unit :=
  modify fun session => { session with log := session.log ++ records }

def log (level : Level) (message : String) : Act Unit := logAll [⟨level, origin, message⟩]

def fail {α : Type} (failure : Failure) : Act α := throw (.failed failure)

def require {α : Type} (value : Except Failure α) : Act α :=
  match value with
  | .ok value => return value
  | .error failure => fail failure

end Act

open Act

def absenceRecords (tree : Tree) (path : String) : List Record :=
  match tree.readText (Path.ofText path) with
  | .error .missing =>
    [⟨.debug, Catalog.origin, path ++ " does not exist, starting from an empty catalog"⟩]
  | _ => []

def readCatalog (path : String) : Act Catalog := do
  let tree := (← get).tree
  logAll (absenceRecords tree path)
  match Catalog.read tree path with
  | .ok catalog => return catalog
  | .error ⟨_, .file fault⟩ => fail (.file fault)
  | .error fault => do
    log .error ("Cannot read " ++ path ++ ": " ++ fault.message)
    throw (.quit 1)

def writeCatalog (settings : CatalogSettings) (path : String) (catalog : Catalog) : Act Unit := do
  let tree := (← get).tree
  match Catalog.write tree path settings.sorted.isGiven settings.pretty.isGiven catalog with
  | .ok tree => modify fun session => { session with tree }
  | .error ⟨_, .file fault⟩ => do
    modify fun session => { session with tree := tree.makeWay (Path.ofText path) }
    fail (.file fault)
  | .error _ => pure ()

def textOf (value : Data) : Except Failure String :=
  match value with
  | .string text => .ok text
  | _ => .error (.wrongType value.typeName)

/-- A setting that is a list of texts. A text counts as the list of its letters, and a mapping as the
    list of its keys. -/
def textsOf (value : Data) : Except Failure (List String) :=
  match value with
  | .string text => .ok (text.toList.map Char.toString)
  | .list items => items.mapM textOf
  | .mapping entries => entries.mapM fun entry => textOf entry.1
  | _ => .error (.wrongType value.typeName)

def patternsOf (value : Data) : Except Failure (List String) :=
  match value with
  | .string text => .ok [text]
  | _ => textsOf value

/-- The texts between commas, without the white space around them; empty ones do not count. -/
def splitWords (text : String) : List String :=
  ((Text.splitAt ',' text.toList).map fun part => String.ofList (Text.strip part)).filter (· != "")

def given? (option : Option String) : Option String := option.filter (· != "")

def wordsOr (option : Option String) (setting : Data) (read : Data → Except Failure (List String)) :
    Except Failure (List String) :=
  match given? option with
  | some text => .ok (splitWords text)
  | none => read setting

def textOr (option : Option String) (setting : Data) : Except Failure String :=
  match given? option with
  | some text => .ok text
  | none => textOf setting

def baseName (path : String) : String :=
  String.ofList (path.toList.reverse.takeWhile (· != '/')).reverse

/-- What there is around the program: the modules installed, the parsers of scripts, and the grammars of
    components that can be loaded. -/
structure Installation where
  modules : List String
  parsers : Script.Parsers
  grammar : Language → Option ComponentGrammar

def standardRegistry (installation : Installation) (options : ExtractOptions) : Registry :=
  Registry.standard options (grammarsAvailable installation.modules grammarsModule)
    installation.grammar

def pluginsMessage (registry : Registry) : String :=
  "Plugins: " ++ ", ".intercalate (registry.plugins.map (·.name))

def progressRecord (progress : Extraction.Progress) : Record :=
  ⟨.debug, origin, "Processed " ++ baseName progress.file ++ " (" ++ toString progress.current ++ "/" ++
    toString progress.total ++ ")"⟩

def eventRecord : Extraction.Event → Record
  | .logged record => record
  | .progressed progress => progressRecord progress

def keysOfItems (items : List Item) : List Wording := (Merged.ofItems items).map (·.key)

def writableFront : List Wording → List String
  | [] => []
  | key :: keys =>
    match key.text? with
    | some text => text :: writableFront keys
    | none => []

def additionLines (found existing : Catalog) : List Line :=
  let added := found.keys.filter fun key => !existing.contains key
  .coloured .cyan "\nExtracted strings:" :: added.map fun key => .coloured .green ("  + " ++ key)

def extractPreview (found existing : Catalog) : List Line :=
  let unused := Catalog.unused found existing
  additionLines found existing ++
    (if unused.isEmpty then []
    else
      .coloured .yellow "\nKeys in locale but not in source:" ::
        unused.map fun key => .coloured .yellow ("  ? " ++ key))

structure ExtractPlan where
  source : Except Failure String
  output : Except Failure String
  includes : Except Failure (List String)
  excludes : List String
  names : List String
  fallback : Bool

def ExtractPlan.of (settings : ExtractSettings) (request : ExtractRequest) :
    Except Failure ExtractPlan := do
  let excludes ← wordsOr request.excludes settings.excludes textsOf
  let names ← wordsOr request.names settings.names textsOf
  return {
    source := textOr request.source settings.source
    output := textOr request.output settings.output
    includes := wordsOr request.includes settings.includes patternsOf
    excludes, names
    fallback := request.fallback || settings.fallback.isGiven }

def extractFrom (parsers : Script.Parsers) (place root : String) (options : ExtractOptions)
    (registry : Registry) : Act (List Item) := do
  match Extraction.fromFolder parsers (← get).tree options registry (place ++ "/") root with
  | .ok run =>
    logAll (run.events.map eventRecord)
    return run.items
  | .error fault => fail (.glob fault)

def writeNothing (path : String) : Act Unit := do
  let tree := (← get).tree
  match tree.write (Path.ofText path) [] with
  | .ok tree => modify fun session => { session with tree }
  | .error fault => do
    modify fun session => { session with tree := tree.makeWay (Path.ofText path) }
    fail (.file fault)

def useKeys (settings : CatalogSettings) (dryRun : Bool) (output : String) (keys : List Wording)
    (existing : Catalog) : Act Unit := do
  match keys.mapM Wording.text?, dryRun with
  | some texts, true => printAll (extractPreview (Catalog.ofKeys texts) existing)
  | some texts, false =>
    writeCatalog settings output (Catalog.reconcile .default (Catalog.ofKeys texts) existing)
  | none, true => do
    printAll (additionLines (Catalog.ofKeys (writableFront keys)) existing)
    fail .unwritable
  | none, false => do
    writeNothing output
    fail .unwritable

def runExtract (installation : Installation) (place : String) (settings : Settings)
    (request : ExtractRequest) : Act Unit := do
  let plan ← require (ExtractPlan.of settings.extract request)
  let registry := standardRegistry installation ⟨[], plan.excludes, plan.names, plan.fallback⟩
  log .info (pluginsMessage registry)
  let source ← require plan.source
  let includes ← require plan.includes
  let items ← extractFrom installation.parsers place source
    ⟨includes, plan.excludes, plan.names, plan.fallback⟩ registry
  let keys := keysOfItems items
  let output ← require plan.output
  let existing ← readCatalog output
  useKeys settings.catalog request.dryRun output keys existing
  print (.coloured .cyan ("\nScanned " ++ toString items.length ++ " occurrences"))
  print (.coloured .cyan ("Found " ++ toString keys.length ++ " unique strings"))
  print [⟨some .cyan, [.text "Time: ", .elapsed, .text "s"]⟩]

def updatePreview (path : String) (before after : Catalog) : List Line :=
  let added := after.entries.filter fun entry => !before.contains entry.1
  let removed := before.keys.filter fun key => !after.contains key
  .coloured .cyan ("\nChanges for " ++ path ++ ":") ::
    added.map (fun entry => .coloured .green ("  + " ++ entry.1 ++ ": " ++ entry.2)) ++
    removed.map fun key => .coloured .red ("  - " ++ key)

def statsMessage (path : String) (stats : Catalog.ReconcileStats) : String :=
  path ++ ": " ++ toString stats.added ++ " added, " ++ toString stats.removed ++ " removed, " ++
    toString stats.unchanged ++ " unchanged"

def updateTarget (settings : CatalogSettings) (request : UpdateRequest) (source : Catalog)
    (path : String) : Act Unit := do
  let target ← readCatalog path
  let reconciled := Catalog.reconcileFully request.options source target
  logAll (reconciled.mismatches.map Catalog.Mismatch.record)
  if request.dryRun then printAll (updatePreview path target reconciled.result)
  else writeCatalog settings path reconciled.result
  log .info (statsMessage path reconciled.stats)

def runUpdate (settings : CatalogSettings) (request : UpdateRequest) : Act Unit := do
  let source ← readCatalog request.source
  request.targets.forM (updateTarget settings request source)
  print (.coloured .green ("Updated " ++ toString request.targets.length ++ " locale files"))

def barLength : Nat := 20

def statusBar (percentage : Nat) : String :=
  let filled := percentage / 5
  String.ofList (List.replicate filled '█' ++ List.replicate (barLength - filled) '░')

def coverageColour (percentage : Nat) : Colour :=
  if 90 ≤ percentage then .green else if 70 ≤ percentage then .yellow else .red

def coverageLines (path : String) (coverage : Catalog.Coverage) : List Line :=
  [.plain (baseName path ++ ":"),
    [⟨none, [.text ("  " ++ statusBar coverage.percentage ++ " ")]⟩,
      ⟨some (coverageColour coverage.percentage), [.text (toString coverage.percentage ++ "%")]⟩],
    .plain ("  " ++ toString coverage.translated ++ "/" ++ toString coverage.total ++
      " translated, " ++ toString coverage.missing ++ " missing\n")]

def runStatus (source : String) (targets : List String) : Act Unit := do
  let catalog ← readCatalog source
  print (.coloured .cyan "\nTranslation Coverage Report")
  print (.coloured .cyan ("Source: " ++ source ++ " (" ++ toString catalog.size ++ " keys)\n"))
  targets.forM fun path => do
    printAll (coverageLines path (Catalog.coverage catalog (← readCatalog path)))

def keyLines (keys : List String) : List Line :=
  keys.map fun key => .coloured .yellow ("  - " ++ key)

def runMissing (source target : String) : Act Unit := do
  let source ← readCatalog source
  let keys := Catalog.missing source (← readCatalog target)
  if keys.isEmpty then print (.coloured .green "All translations are complete!")
  else
    print (.coloured .yellow ("Missing " ++ toString keys.length ++ " translations:\n"))
    printAll (keyLines keys)

def runUnused (source target : String) : Act Unit := do
  let source ← readCatalog source
  let keys := Catalog.unused source (← readCatalog target)
  if keys.isEmpty then print (.coloured .green "No unused keys found!")
  else
    print (.coloured .yellow ("Found " ++ toString keys.length ++ " unused keys:\n"))
    printAll (keyLines keys)

def column (width : Nat) (text : String) : String :=
  String.ofList (text.toList ++ List.replicate (width - text.length) ' ')

def pluginLine (plugin : Plugin) : Line :=
  .plain (column 12 plugin.name ++ " " ++ column 24 (", ".intercalate plugin.extensions) ++ " " ++
    (if plugin.isAvailable then "available" else "unavailable"))

def runPlugins (installation : Installation) (settings : ExtractSettings) : Act Unit := do
  let names ← require (textsOf settings.names)
  let registry := standardRegistry installation { ExtractOptions.default with names }
  printAll (registry.plugins.map pluginLine)

def helpLine : Line := .plain "Usage: i18nsync [OPTIONS] COMMAND [ARGS]..."

def runCommand (installation : Installation) (place : String) (settings : Settings) :
    Command → Act Unit
  | .extract request => runExtract installation place settings request
  | .update request => runUpdate settings.catalog request
  | .status source targets => runStatus source targets
  | .missing source target => runMissing source target
  | .unused source target => runUnused source target
  | .plugins => runPlugins installation settings.extract
  | .help => print helpLine

def logFormat (settings : LoggingSettings) : Except Failure LogFormat := do
  let word ← match settings.level with
    | .string word => pure word
    | _ => throw .levelNotText
  let format ← if settings.format.isGiven then textOf settings.format else pure ""
  let pieces ← match LogFormat.piecesOf? format with
    | some pieces => pure pieces
    | none => throw (.fieldlessFormat format)
  let threshold ← match LogFormat.threshold? word with
    | some threshold => pure threshold
    | none => throw (.unknownLevel word)
  return ⟨threshold, pieces, settings.dateFormat.string?.getD ""⟩

/-- Whether a fault of the settings is reported as a mistake in them; the others break the run. -/
def isReported : Settings.Fault → Bool
  | .text .malformed => true
  | .sectionNotMapping _ _ => true
  | .keyNotString => true
  | .unknownKey _ _ => true
  | _ => false

namespace Outcome

def ended (tree : Tree) (status : Nat) (output : List Line) : Outcome :=
  ⟨status, none, tree, output, [], .bare⟩

def broken (tree : Tree) (failure : Failure) : Outcome := ⟨1, some failure, tree, [], [], .bare⟩

def misused (tree : Tree) : Outcome := ended tree 2 []

def ofSettingsFault (tree : Tree) (fault : Settings.Fault) : Outcome :=
  if isReported fault then
    { ended tree 1 [] with log := [⟨.error, origin, "cli " ++ fault.message⟩] }
  else broken tree (.settings fault)

def ofAct (tree : Tree) (format : LogFormat) (act : Act Unit) : Outcome :=
  let (result, session) := (act.run).run ⟨tree, [], []⟩
  let (status, failure) : Nat × Option Failure := match result with
    | .ok _ => (0, none)
    | .error (.quit status) => (status, none)
    | .error (.failed failure) => (1, some failure)
  ⟨status, failure, session.tree, session.output, session.log, format⟩

end Outcome

def versionLine : Line := .plain "i18nsync, version 0.1.0"

def runUnderSettings (installation : Installation) (tree : Tree) (place folder : String)
    (name : CommandName) (words : List String) : Outcome :=
  match Settings.load tree folder with
  | .error fault => .ofSettingsFault tree fault
  | .ok settings =>
    match logFormat settings.logging with
    | .error failure => .broken tree failure
    | .ok format =>
      match Command.ofWords name words with
      | .error _ => .misused tree
      | .ok command => .ofAct tree format (runCommand installation place settings command)

def run (installation : Installation) (tree : Tree) (place : String) (words : List String) : Outcome :=
  match Invocation.ofWords words with
  | .error _ => .misused tree
  | .ok .help => .ended tree 0 [helpLine]
  | .ok .version => .ended tree 0 [versionLine]
  | .ok (.run folder name words) => runUnderSettings installation tree place folder name words

end Phrasebook.CommandLine
