import Phrasebook.Call
import Phrasebook.Convention.Dialect
import Phrasebook.Extraction.Options
import Phrasebook.Project.Tree
import Phrasebook.Script.Source

namespace Phrasebook.Extraction

inductive Fault where
  | file (fault : FileFault)
  | unparsable (error : Script.SyntaxError)
  | literal (fault : Literal.Fault)
  /-- What a plugin that is added breaks down with. -/
  | raised (message : String)
  deriving DecidableEq, Repr

def Fault.message : Fault → String
  | file fault => fault.message
  | unparsable error => error.message
  | literal fault => fault.message
  | raised message => message

def endsWith (text ending : String) : Bool := ending.toList.isSuffixOf text.toList

def keyedCalls (names : List String) (tree : Script.SyntaxTree) : Except Literal.Fault (List Call) := do
  return (← extractCalls tree.source names tree.root).filter fun call => call.key != []

def itemsOfTree (names : List String) (file : String) (tree : Script.SyntaxTree) :
    Except Literal.Fault (List Item) := do
  return (← keyedCalls names tree).map fun call =>
    call.toItem file call.position.line call.position.column

def bySearch (options : ExtractOptions) (file : String) (code : List Char) : List Item :=
  Dialect.script.items options.names file code

def untyped (parsers : Script.Parsers) (options : ExtractOptions) (file : String)
    (code : List Char) : Except Fault (List Item) :=
  let result := Script.recover parsers false (endsWith file ".jsx") code
  match result.diagnostics, result.tree with
  | [], none => .ok []
  | [], some tree => (itemsOfTree options.names file tree).mapError .literal
  | first :: _, tree? =>
    if options.fallback then .ok (bySearch options file code)
    else
      match tree? with
      | some tree => (itemsOfTree options.names file tree).mapError .literal
      | none => .error (.unparsable ⟨first, some file⟩)

def typed (parsers : Script.Parsers) (options : ExtractOptions) (file : String)
    (code : List Char) : Except Fault (List Item) :=
  match Script.parseSource parsers true (endsWith file ".tsx") (some file) code with
  | .ok tree => (itemsOfTree options.names file tree).mapError .literal
  | .error _ => untyped parsers { options with fallback := true } file code

end Phrasebook.Extraction
