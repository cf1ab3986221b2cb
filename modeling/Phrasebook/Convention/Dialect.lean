import Phrasebook.Convention.Pattern
import Phrasebook.Item
import Phrasebook.Literal
import Phrasebook.Text.Position
import Phrasebook.Text.Quoted

namespace Phrasebook

inductive Convention where
  | wrapped
  | doubleWrapped
  | bare
  | method
  | block
  | directive
  deriving DecidableEq, Repr

namespace Convention

def quotes : List Char := ['\'', '"', '\x60']

def owners : List (List Char) := ["this".toList, "i18n".toList]

def callPatterns (wrapping : Wrapping) (names : List (List Char)) : List Pattern :=
  names.flatMap fun name => quotes.map fun quote => .call wrapping name quote

def patterns (names : List (List Char)) : Convention → List Pattern
  | wrapped => callPatterns .braces names
  | doubleWrapped => callPatterns .doubleBraces names
  | bare => callPatterns .bare names
  | method =>
    names.flatMap fun name => quotes.flatMap fun quote => owners.map fun owner =>
      .call (.method owner) name quote
  | block => [.block '\'', .block '"']
  | directive => [.directive '"' '\'', .directive '\'' '"']

end Convention

inductive Dialect where
  | script
  | svelte
  | vue
  | template
  deriving DecidableEq, Repr

namespace Dialect

def name : Dialect → String
  | script => "script"
  | svelte => "svelte"
  | vue => "vue"
  | template => "template"

def all : List Dialect := [script, svelte, vue, template]

structure UnknownDialect where
  name : String
  deriving DecidableEq, Repr

def UnknownDialect.message (error : UnknownDialect) : String :=
  "Unknown dialect " ++ String.ofList (Text.Quoted.quoted error.name.toList)

def ofName (name : String) : Except UnknownDialect Dialect :=
  match all.find? (·.name == name) with
  | some dialect => .ok dialect
  | none => .error ⟨name⟩

def conventions : Dialect → List Convention
  | script => [.method, .bare, .block]
  | svelte => [.wrapped, .block, .method, .bare]
  | vue => [.doubleWrapped, .directive, .method, .bare]
  | template => [.wrapped, .block, .doubleWrapped, .directive, .method, .bare]

def patterns (dialect : Dialect) (names : List (List Char)) : List Convention.Pattern :=
  dialect.conventions.flatMap (·.patterns names)

structure Find where
  key : List Char
  index : Nat
  deriving DecidableEq, Repr

def Find.ofMatch (found : Convention.Match) : Find := ⟨Literal.normalize found.body, found.start⟩

def firstFinds (finds : List Find) : List Find :=
  finds.foldl
    (fun kept find =>
      if find.key.isEmpty || kept.any (·.key == find.key) then kept else kept ++ [find]) []

def finds (dialect : Dialect) (names : List String) (text : List Char) : List Find :=
  firstFinds <| (dialect.patterns (names.map (·.toList))).flatMap fun pattern =>
    (pattern.matchesIn text).map Find.ofMatch

def itemsAt (dialect : Dialect) (names : List String) (file : String) (document : List Char)
    (start : Nat) (part : List Char) : List Item :=
  (dialect.finds names part).map fun find =>
    let position := Text.Position.ofIndex document (start + find.index)
    Item.create (.ofChars find.key) file position.line position.column none

def items (dialect : Dialect) (names : List String) (file : String) (document : List Char) :
    List Item :=
  dialect.itemsAt names file document 0 document

end Dialect

end Phrasebook
