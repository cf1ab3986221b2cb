import Phrasebook.Data.Yaml
import Phrasebook.Extraction.Options
import Phrasebook.Project.Tree

namespace Phrasebook

structure LoggingSettings where
  level : Data
  format : Data
  dateFormat : Data

structure ExtractSettings where
  source : Data
  output : Data
  includes : Data
  excludes : Data
  names : Data
  fallback : Data

structure CatalogSettings where
  sorted : Data
  pretty : Data

structure Settings where
  logging : LoggingSettings
  extract : ExtractSettings
  catalog : CatalogSettings

namespace Settings

inductive Section where
  | logging
  | extract
  | catalog
  deriving DecidableEq, Repr

inductive Fault where
  | file (fault : FileFault)
  | text (fault : Data.Yaml.Fault)
  | notMapping
  | sectionNotMapping (which : Section) (type : String)
  | keyNotString
  | unknownKey (which : Section) (key : String)
  deriving DecidableEq, Repr

def Section.key : Section → String
  | logging => "logging"
  | extract => "extract"
  | catalog => "catalog"

def Section.typeName : Section → String
  | logging => "LoggingConfig"
  | extract => "ExtractConfig"
  | catalog => "CatalogConfig"

def Fault.message : Fault → String
  | file fault => fault.message
  | text (.range message) => message
  | text .malformed => "The settings are malformed"
  | text .noTruth => "A truth value in the settings is none"
  | notMapping => "The settings are no mapping"
  | sectionNotMapping which type =>
    "i18nsync.config." ++ which.typeName ++ "() argument after ** must be a mapping, not " ++ type
  | keyNotString => "keywords must be strings"
  | unknownKey which key =>
    which.typeName ++ ".__init__() got an unexpected keyword argument '" ++ key ++ "'"

def setLogging (key : String) (value : Data) (settings : LoggingSettings) :
    Option LoggingSettings :=
  match key with
  | "level" => some { settings with level := value }
  | "format" => some { settings with format := value }
  | "datefmt" => some { settings with dateFormat := value }
  | _ => none

def setExtract (key : String) (value : Data) (settings : ExtractSettings) :
    Option ExtractSettings :=
  match key with
  | "source" => some { settings with source := value }
  | "output" => some { settings with output := value }
  | "include" => some { settings with includes := value }
  | "exclude" => some { settings with excludes := value }
  | "function_names" => some { settings with names := value }
  | "fallback_to_regex" => some { settings with fallback := value }
  | _ => none

def setCatalog (key : String) (value : Data) (settings : CatalogSettings) :
    Option CatalogSettings :=
  match key with
  | "sort" => some { settings with sorted := value }
  | "pretty" => some { settings with pretty := value }
  | _ => none

def ofStrings (texts : List String) : Data := .list (texts.map .string)

def default : Settings where
  logging :=
    ⟨.string "INFO", .string "%(asctime)s %(levelname)s %(name)s: %(message)s",
      .string "%Y-%m-%d %H:%M:%S"⟩
  extract :=
    ⟨.string "./src", .string "./src/locales/en.json", .string ExtractOptions.defaultInclude,
      ofStrings ExtractOptions.defaultExcludes, ofStrings ExtractOptions.defaultNames, .bool false⟩
  catalog := ⟨.bool true, .bool true⟩

def sectionEntries (which : Section) (given : Data) : Except Fault (List (String × Data)) :=
  match given with
  | .mapping entries => entries.mapM fun (key, value) =>
    match key.string? with
    | some key => .ok (key, value)
    | none => .error .keyNotString
  | _ => if given.isGiven then .error (.sectionNotMapping which given.typeName) else .ok []

def fill {α : Type} (which : Section) (set : String → Data → α → Option α) (start : α)
    (given : Data) : Except Fault α := do
  (← sectionEntries which given).foldlM (fun settings (key, value) =>
    match set key value settings with
    | some settings => .ok settings
    | none => .error (.unknownKey which key)) start

def sectionOf (entries : List (Data × Data)) (which : Section) : Data :=
  ((entries.find? fun entry => entry.1.string? == some which.key).map (·.2)).getD .null

def ofEntries (entries : List (Data × Data)) : Except Fault Settings := do
  let given := sectionOf entries
  let logging ← fill .logging setLogging default.logging (given .logging)
  let extract ← fill .extract setExtract default.extract (given .extract)
  let catalog ← fill .catalog setCatalog default.catalog (given .catalog)
  return ⟨logging, extract, catalog⟩

def ofData (given : Data) : Except Fault Settings :=
  match given with
  | .mapping entries => ofEntries entries
  | _ => if given.isGiven then .error .notMapping else .ok default

def ofText (text : List Char) : Except Fault Settings := do
  ofData (← (Data.Yaml.parse text).mapError .text)

def fileName : String := "config.yml"

def load (tree : Tree) (folder : String) : Except Fault Settings :=
  match tree.readText ((Path.ofText folder).resolve ++ [fileName]) with
  | .ok text => ofText text
  | .error .missing => .ok default
  | .error fault => .error (.file fault)

end Settings

end Phrasebook
