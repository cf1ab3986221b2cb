import Phrasebook.Component.Plugin
import Phrasebook.Extraction.Script
import Phrasebook.Text.Quoted

namespace Phrasebook

open Extraction (Fault typed untyped bySearch)

inductive Task where
  | extract
  | search
  deriving DecidableEq, Repr

/-- What a plugin is asked for: to extract the keys of a file, or to search it for patterns. -/
structure Query where
  task : Task
  file : String
  code : List Char
  deriving DecidableEq, Repr

/-- A plugin that is added. What it answers may depend on all it was asked for before and on whether it is
    available, and an answer may change the latter. -/
structure CustomPlugin where
  name : String
  extensions : List String
  available : Bool
  asked : List Query
  answer : (asked : List Query) → (available : Bool) → Query → Except Fault (List Item) × Bool

def CustomPlugin.templateItems (file : String) (code : List Char) : List Item :=
  Dialect.template.items ExtractOptions.defaultNames file code

inductive Plugin where
  | script (typed : Bool) (options : ExtractOptions)
  | component (plugin : ComponentPlugin)
  | custom (plugin : CustomPlugin)

namespace Plugin

def untypedExtensions : List String := [".js", ".jsx", ".mjs", ".cjs"]

def typedExtensions : List String := [".ts", ".tsx"]

def name : Plugin → String
  | script false _ => "javascript"
  | script true _ => "typescript"
  | component plugin => plugin.language.name
  | custom plugin => plugin.name

def extensions : Plugin → List String
  | script false _ => untypedExtensions
  | script true _ => typedExtensions
  | component plugin => [plugin.language.extension]
  | custom plugin => plugin.extensions

def isAvailable : Plugin → Bool
  | script _ _ => true
  | component plugin => plugin.available
  | custom plugin => plugin.available

def claims (plugin : Plugin) (extension : String) : Bool := plugin.extensions.contains extension

def kindName : Plugin → String
  | script false _ => "JavaScriptPlugin"
  | script true _ => "TypeScriptPlugin"
  | component plugin =>
    match plugin.language with
    | .svelte => "SveltePlugin"
    | .vue => "VuePlugin"
  | custom _ => "CustomPlugin"

def label (plugin : Plugin) : String :=
  let quoted := plugin.extensions.map fun e => String.ofList (Text.Quoted.quoted e.toList)
  "<" ++ plugin.kindName ++ " " ++ plugin.name ++ " [" ++ ", ".intercalate quoted ++ "]>"

/-- An extraction: its outcome, the plugin as it is afterwards, and what was logged. -/
structure Extracted where
  outcome : Except Fault (List Item)
  plugin : Plugin
  log : List Record

def ask (plugin : CustomPlugin) (query : Query) : Extracted :=
  let (outcome, available) := plugin.answer plugin.asked plugin.available query
  ⟨outcome, custom { plugin with available, asked := plugin.asked ++ [query] }, []⟩

def extract (plugin : Plugin) (parsers : Script.Parsers) (file : String) (code : List Char) :
    Extracted :=
  match plugin with
  | script false options => ⟨untyped parsers options file code, plugin, []⟩
  | script true options => ⟨typed parsers options file code, plugin, []⟩
  | component inner =>
    let result := inner.extract parsers file code
    ⟨result.outcome.mapError .literal, component result.plugin, result.log⟩
  | custom inner => ask inner ⟨.extract, file, code⟩

def extractSync (plugin : Plugin) (file : String) (code : List Char) : Extracted :=
  match plugin with
  | script _ options => ⟨.ok (bySearch options file code), plugin, []⟩
  | component inner => ⟨.ok (inner.extractSync file code), plugin, []⟩
  | custom inner => ask inner ⟨.search, file, code⟩

end Plugin

structure Registry where
  plugins : List Plugin

namespace Registry

def empty : Registry := ⟨[]⟩

def put (plugin : Plugin) : List Plugin → List Plugin
  | [] => [plugin]
  | other :: rest =>
    if other.name == plugin.name then plugin :: rest else other :: put plugin rest

def register (registry : Registry) (plugin : Plugin) : Registry := ⟨put plugin registry.plugins⟩

def ofList (plugins : List Plugin) : Registry := plugins.foldl register empty

def unregister (registry : Registry) (name : String) : Registry :=
  ⟨registry.plugins.filter (·.name != name)⟩

def lookup (registry : Registry) (extension : String) : Option Plugin :=
  registry.plugins.find? fun plugin => plugin.claims extension && plugin.isAvailable

def claimant? (registry : Registry) (extension : String) : Option Plugin :=
  registry.plugins.find? (·.claims extension)

def standard (options : ExtractOptions) (available : Bool)
    (grammar : Language → Option ComponentGrammar) : Registry :=
  ofList [.script false options, .script true options,
    .component (.create .svelte options.names available (grammar .svelte)),
    .component (.create .vue options.names available (grammar .vue))]

end Registry

end Phrasebook
