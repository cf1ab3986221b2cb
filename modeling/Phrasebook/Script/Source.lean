import Phrasebook.Syntax.Diagnostic

namespace Phrasebook.Script

open Syntax

inductive Grammar where
  | javascript
  | typescript
  | tsx
  deriving DecidableEq, Repr

namespace Grammar

def name : Grammar → String
  | .javascript => "javascript"
  | .typescript => "typescript"
  | .tsx => "tsx"

def choose (typed elements : Bool) : Grammar :=
  if typed then if elements then .tsx else .typescript else .javascript

end Grammar

structure SyntaxTree where
  root : Node
  source : List UInt8
  grammar : Grammar

/-- Parsers for the grammars. What they make of some bytes depends on nothing else. -/
abbrev Parsers := Grammar → List UInt8 → Node

def SyntaxTree.ofText (parsers : Parsers) (grammar : Grammar) (text : List Char) : SyntaxTree :=
  let source := Text.encode text
  ⟨parsers grammar source, source, grammar⟩

def SyntaxTree.diagnostics (tree : SyntaxTree) (elements : Bool) : List Diagnostic :=
  Syntax.diagnostics tree.source (tree.grammar == .javascript && !elements) tree.root

structure SyntaxError where
  diagnostic : Diagnostic
  file : Option String
  deriving DecidableEq, Repr

def SyntaxError.message (error : SyntaxError) : String :=
  let place := [toString error.diagnostic.position.line, toString error.diagnostic.position.column]
  ":".intercalate (error.file.toList ++ place) ++ ": " ++ error.diagnostic.message

/-- A parse with recovery: the tree is withheld when a mistake is fatal. -/
structure Recovered where
  tree : Option SyntaxTree
  diagnostics : List Diagnostic

def SyntaxTree.recover (tree : SyntaxTree) (elements : Bool) : Recovered :=
  let diagnostics := tree.diagnostics elements
  ⟨if diagnostics.any (·.fatal) then none else some tree, diagnostics⟩

def SyntaxTree.check (tree : SyntaxTree) (elements : Bool) (file : Option String) :
    Except SyntaxError SyntaxTree :=
  match tree.diagnostics elements with
  | [] => .ok tree
  | first :: _ => .error ⟨first, file⟩

def recover (parsers : Parsers) (typed elements : Bool) (text : List Char) : Recovered :=
  (SyntaxTree.ofText parsers (Grammar.choose typed elements) text).recover elements

def parseSource (parsers : Parsers) (typed elements : Bool) (file : Option String)
    (text : List Char) : Except SyntaxError SyntaxTree :=
  (SyntaxTree.ofText parsers (Grammar.choose typed elements) text).check elements file

/-- Trees by grammar and text. Each carries the number of the step that parsed it, which tells trees
    of the same text apart. -/
structure Cache where
  entries : List ((Grammar × List Char) × (SyntaxTree × Nat))

namespace Cache

def empty : Cache := ⟨[]⟩

def size (cache : Cache) : Nat := cache.entries.length

def find? (cache : Cache) (grammar : Grammar) (text : List Char) : Option (SyntaxTree × Nat) :=
  (cache.entries.find? fun entry => entry.1.1 == grammar && entry.1.2 == text).map (·.2)

/-- The tree of a text, from the cache if it is used and holds one. A tree parsed for the cache is
    kept there whether or not the text has mistakes. -/
def tree (cache : Cache) (useCache : Bool) (grammar : Grammar) (text : List Char) (step : Nat)
    (parsers : Parsers) : (SyntaxTree × Nat) × Cache :=
  match if useCache then cache.find? grammar text else none with
  | some found => (found, cache)
  | none =>
    let parsed := (SyntaxTree.ofText parsers grammar text, step)
    (parsed, if useCache then ⟨cache.entries ++ [((grammar, text), parsed)]⟩ else cache)

end Cache

end Phrasebook.Script
