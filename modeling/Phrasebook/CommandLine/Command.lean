import Phrasebook.Catalog.Reconcile
import Phrasebook.CommandLine.Arguments

namespace Phrasebook.CommandLine

/-- What an extraction is asked for; what is left open is taken from the settings. -/
structure ExtractRequest where
  source : Option String
  output : Option String
  includes : Option String
  excludes : Option String
  names : Option String
  fallback : Bool
  dryRun : Bool
  deriving DecidableEq, Repr

structure UpdateRequest where
  source : String
  targets : List String
  options : Catalog.ReconcileOptions
  dryRun : Bool
  deriving DecidableEq, Repr

inductive Command where
  | extract (request : ExtractRequest)
  | update (request : UpdateRequest)
  | status (source : String) (targets : List String)
  | missing (source target : String)
  | unused (source target : String)
  | plugins
  | help
  deriving DecidableEq, Repr

inductive CommandName where
  | extract
  | update
  | status
  | missing
  | unused
  | plugins
  deriving DecidableEq, Repr

/-- What the words before the arguments of a command ask for. -/
inductive Invocation where
  | help
  | version
  | run (settingsFolder : String) (name : CommandName) (words : List String)
  deriving DecidableEq, Repr

namespace CommandName

def all : List CommandName := [extract, update, status, missing, unused, plugins]

def text : CommandName → String
  | extract => "extract"
  | update => "update"
  | status => "status"
  | missing => "missing"
  | unused => "unused"
  | plugins => "plugins"

def ofText? (text : String) : Option CommandName := all.find? (·.text == text)

end CommandName

inductive GlobalOption where
  | settingsFolder
  | version
  | help
  deriving DecidableEq, Repr

def globalOptions : List (OptionSpec GlobalOption) :=
  [⟨.settingsFolder, ["--config-folder"], true⟩, ⟨.version, ["--version"], false⟩,
    ⟨.help, ["--help"], false⟩]

def defaultSettingsFolder : String := "config"

def Invocation.ofWords (words : List String) : Except UsageFault Invocation := do
  let arguments ← readArguments globalOptions false words
  match arguments.options.find? (·.1 != .settingsFolder) with
  | some (.version, _) => return .version
  | some _ => return .help
  | none =>
    let folder := (arguments.value? .settingsFolder).getD defaultSettingsFolder
    match arguments.positional with
    | [] => throw .missingCommand
    | name :: rest =>
      match CommandName.ofText? name with
      | some name => return .run folder name rest
      | none => throw (.unknownCommand name)

inductive CommandOption where
  | source
  | output
  | includes
  | excludes
  | names
  | fallback
  | dryRun
  | flush
  | replaceUntranslated
  | validateParams
  | help
  deriving DecidableEq, Repr

def helpOption : OptionSpec CommandOption := ⟨.help, ["--help"], false⟩

def dryRunOption : OptionSpec CommandOption := ⟨.dryRun, ["--dry-run"], false⟩

def CommandName.options : CommandName → List (OptionSpec CommandOption)
  | extract =>
    [⟨.source, ["-s", "--source"], true⟩, ⟨.output, ["-o", "--output"], true⟩,
      ⟨.includes, ["-i", "--include"], true⟩, ⟨.excludes, ["-e", "--exclude"], true⟩,
      ⟨.names, ["--function-names"], true⟩, ⟨.fallback, ["--fallback-to-regex"], false⟩,
      dryRunOption, helpOption]
  | update =>
    [⟨.flush, ["-f", "--flush"], false⟩, ⟨.replaceUntranslated, ["--remove-untranslated"], false⟩,
      ⟨.validateParams, ["--validate-params"], false⟩, dryRunOption, helpOption]
  | _ => [helpOption]

def extractRequest (arguments : Arguments CommandOption) : ExtractRequest where
  source := arguments.value? .source
  output := arguments.value? .output
  includes := arguments.value? .includes
  excludes := arguments.value? .excludes
  names := arguments.value? .names
  fallback := arguments.isGiven .fallback
  dryRun := arguments.isGiven .dryRun

def updateRequest (arguments : Arguments CommandOption) (source : String) (targets : List String) :
    UpdateRequest where
  source := source
  targets := targets
  options :=
    ⟨arguments.isGiven .flush, arguments.isGiven .replaceUntranslated,
      arguments.isGiven .validateParams⟩
  dryRun := arguments.isGiven .dryRun

def twoWords (words : List String) : Except UsageFault (String × String) :=
  match words with
  | [source, target] => .ok (source, target)
  | _ :: _ :: extra :: _ => .error (.extraArgument extra)
  | _ => .error .missingArgument

def wordAndMore (words : List String) : Except UsageFault (String × List String) :=
  match words with
  | source :: target :: more => .ok (source, target :: more)
  | _ => .error .missingArgument

def noWords (words : List String) : Except UsageFault Unit :=
  match words with
  | [] => .ok ()
  | extra :: _ => .error (.extraArgument extra)

def Command.ofWords (name : CommandName) (words : List String) : Except UsageFault Command := do
  let arguments ← readArguments name.options true words
  if arguments.isGiven .help then return .help
  else match name with
    | .extract =>
      noWords arguments.positional
      return .extract (extractRequest arguments)
    | .update =>
      let (source, targets) ← wordAndMore arguments.positional
      return .update (updateRequest arguments source targets)
    | .status =>
      let (source, targets) ← wordAndMore arguments.positional
      return .status source targets
    | .missing =>
      let (source, target) ← twoWords arguments.positional
      return .missing source target
    | .unused =>
      let (source, target) ← twoWords arguments.positional
      return .unused source target
    | .plugins =>
      noWords arguments.positional
      return .plugins

end Phrasebook.CommandLine
