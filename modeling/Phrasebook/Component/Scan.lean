import Phrasebook.Component.Region
import Phrasebook.Component.Section
import Phrasebook.Convention.Dialect
import Phrasebook.Extraction.Script

namespace Phrasebook

open Syntax

inductive Language where
  | svelte
  | vue
  deriving DecidableEq, Repr

namespace Language

def name : Language → String
  | svelte => "svelte"
  | vue => "vue"

def extension : Language → String
  | svelte => ".svelte"
  | vue => ".vue"

def dialect : Language → Dialect
  | svelte => .svelte
  | vue => .vue

def judge (language : Language) (source : List UInt8) (node : Node) :
    Node.Verdict Component.Region :=
  match language with
  | svelte => Component.Svelte.judge source node
  | vue => Component.Vue.judge source node

def regions (language : Language) (source : List UInt8) (root : Node) : List Component.Region :=
  Node.sweep (language.judge source) [root]

end Language

namespace Component

structure Scan where
  language : Language
  names : List String
  file : String
  deriving DecidableEq, Repr

namespace Scan

def literalItems (scan : Scan) (source : List UInt8) (region : Region)
    (tree : Script.SyntaxTree) : Except Literal.Fault (List Item) := do
  match ← literalExpression tree.source tree.root with
  | some argument =>
    match argument.value with
    | some key =>
      if argument.kind.isLiteral && key != [] then
        let position := Text.Position.ofOffset source region.start
        return [Item.create key scan.file position.line position.column none]
      else return []
    | none => return []
  | none => return []

def regionItems (scan : Scan) (parsers : Script.Parsers) (source : List UInt8) (region : Region) :
    Except Literal.Fault (List Item) :=
  match (Script.recover parsers region.typed false (region.text source)).tree with
  | none => .ok []
  | some tree =>
    if region.kind == .literal then scan.literalItems source region tree
    else do
      return (← Extraction.keyedCalls scan.names tree).map fun call =>
        let position := Text.Position.ofOffset source (region.start + call.offset)
        call.toItem scan.file position.line position.column

def structuralItems (scan : Scan) (parsers : Script.Parsers) (source : List UInt8) (root : Node) :
    Except Literal.Fault (List Item) := do
  return (← (scan.language.regions source root).mapM (scan.regionItems parsers source)).flatten

def sectionItems (scan : Scan) (parsers : Script.Parsers) (code : List Char) (part : Section) :
    Except Literal.Fault (List Item) :=
  match (Script.recover parsers part.typed false part.content).tree with
  | none => .ok (Dialect.script.itemsAt scan.names scan.file code part.contentStart part.content)
  | some tree => do
    let base := Text.Position.ofIndex code part.contentStart
    return (← Extraction.keyedCalls scan.names tree).map fun call =>
      let position := base.within call.position
      call.toItem scan.file position.line position.column

def searchItems (scan : Scan) (text : List Char) : List Item :=
  scan.language.dialect.items scan.names scan.file text

/-- The keys found without a syntax tree: those of the scripts, then those of the template. -/
def fallbackItems (scan : Scan) (parsers : Script.Parsers) (code : List Char) :
    Except Literal.Fault (List Item) := do
  let sections := Sections.ofText code
  let scripts ← (sections.moduleScript.toList ++ sections.script.toList).mapM
    (scan.sectionItems parsers code)
  return scripts.flatten ++
    if sections.template.isSome then scan.searchItems (maskBlocks code) else []

end Scan

end Component

end Phrasebook
