import Phrasebook.Component.Scan
import Phrasebook.Log

namespace Phrasebook

open Syntax

/-- Makes a syntax tree of a source, or breaks down with a message. -/
abbrev ComponentGrammar := List UInt8 → Except String Node

inductive Loading where
  | untried
  | loaded
  | failed
  deriving DecidableEq, Repr

structure ComponentPlugin where
  language : Language
  names : List String
  available : Bool
  grammar : Option ComponentGrammar
  loading : Loading
  loads : Nat

def grammarsModule : String := "tree_sitter_language_pack"

def grammarsAvailable (installed : List String) (name : String) : Bool := installed.contains name

namespace ComponentPlugin

def create (language : Language) (names : List String) (available : Bool)
    (grammar : Option ComponentGrammar) : ComponentPlugin :=
  ⟨language, names, available, grammar, .untried, 0⟩

def load (plugin : ComponentPlugin) : ComponentPlugin :=
  if plugin.loading == .untried then
    { plugin with
      available := plugin.grammar.isSome
      loading := if plugin.grammar.isSome then .loaded else .failed
      loads := plugin.loads + 1 }
  else plugin

def usableGrammar? (plugin : ComponentPlugin) : Option ComponentGrammar :=
  if plugin.loading == .loaded then plugin.grammar else none

inductive Breakdown where
  | grammar (message : String)
  | literal (fault : Literal.Fault)
  deriving DecidableEq, Repr

def Breakdown.message : Breakdown → String
  | grammar message => message
  | literal fault => fault.message

def scan (plugin : ComponentPlugin) (file : String) : Component.Scan :=
  ⟨plugin.language, plugin.names, file⟩

def structuralItems (plugin : ComponentPlugin) (parsers : Script.Parsers)
    (grammar : ComponentGrammar) (file : String) (code : List Char) :
    Except Breakdown (List Item) := do
  let source := Text.encode code
  let root ← (grammar source).mapError .grammar
  ((plugin.scan file).structuralItems parsers source root).mapError .literal

def origin : String := "i18nsync.plugins"

def breakdownRecord (plugin : ComponentPlugin) (file : String) (breakdown : Breakdown) : Record :=
  ⟨.warning, origin,
    "Error parsing " ++ plugin.language.name ++ " file " ++ file ++ ": " ++ breakdown.message⟩

def structuralPass (plugin : ComponentPlugin) (parsers : Script.Parsers) (file : String)
    (code : List Char) : List Item × List Record :=
  match plugin.usableGrammar? with
  | none => ([], [])
  | some grammar =>
    match plugin.structuralItems parsers grammar file code with
    | .ok items => (items, [])
    | .error breakdown => ([], [plugin.breakdownRecord file breakdown])

/-- An extraction: its outcome, the plugin as it is afterwards, and what was logged. -/
structure Extracted where
  outcome : Except Literal.Fault (List Item)
  plugin : ComponentPlugin
  log : List Record

def extract (plugin : ComponentPlugin) (parsers : Script.Parsers) (file : String)
    (code : List Char) : Extracted :=
  let plugin := plugin.load
  let (items, log) := plugin.structuralPass parsers file code
  let outcome :=
    if items.isEmpty then (plugin.scan file).fallbackItems parsers code else .ok items
  ⟨outcome.map Item.dedupe, plugin, log⟩

def extractSync (plugin : ComponentPlugin) (file : String) (code : List Char) : List Item :=
  (plugin.scan file).searchItems code

end ComponentPlugin

end Phrasebook
