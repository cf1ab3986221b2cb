import Phrasebook.Syntax.Parse
import Phrasebook.Script.Lexical

namespace Phrasebook.Script

open Syntax

structure Dialect where
  elements : Bool
  /-- Type annotations, declarations and assertions are understood. -/
  types : Bool
  deriving DecidableEq, Repr

structure Setting where
  dialect : Dialect
  /-- The end of a line may close the statement here: no bracket is open inside it. -/
  lineCloses : Bool
  /-- Arrow functions may declare the type of their result. -/
  resultTypes : Bool
  /-- Mistakes are mended by assuming tokens and setting text aside. -/
  tolerant : Bool

/-- What the mutually dependent parts of the grammar are asked for. -/
inductive Part where
  | statement
  | block
  | sequence
  | expression
  | binary (precedence : Nat)
  | unary
  | target
  | bound
  | type
  | operandType
  | element
  | decorator
  | classOperand
  | construction

abbrev Reading := Parse Setting

abbrev Rules := Part → Reading Unit

namespace Reading

def skipTrivia : Reading Unit := do
  Parse.drop (triviaLength (← Parse.rest))

def ahead : Reading (List Char) := do
  return afterTrivia (← Parse.rest)

def nextOperator : Reading String := do
  return operatorAhead (← ahead)

def nextWord : Reading String := do
  return wordAhead (← ahead)

def nextChar? : Reading (Option Char) := do
  return (← ahead).head?

def types : Reading Bool := do
  return (← Parse.settings).dialect.types

def token (kind : String) (named : Bool) (n : Nat) : Reading Unit := do
  skipTrivia
  Parse.leaf kind named n

def operator (op : String) : Reading Unit := do
  if (← nextOperator) == op then token op false op.length else Parse.fail

def char (c : Char) : Reading Unit := do
  if (← nextChar?) == some c then token c.toString false 1 else Parse.fail

def keyword (word : String) : Reading Unit := do
  if (← nextWord) == word then token word false word.length else Parse.fail

def anyKeyword (words : List String) : Reading Unit := do
  let word ← nextWord
  if words.contains word then token word false word.length else Parse.fail

def word (kind : String) : Reading Unit := do
  let n := wordLength (← ahead)
  if n = 0 then Parse.fail else token kind true n

def identifier : Reading Unit := do
  let name ← nextWord
  if name == "" || isReserved name then Parse.fail else token "identifier" true name.length

def namedKeyword (name : String) : Reading Unit := do
  if (← nextWord) == name then token name true name.length else Parse.fail

/-- Reads a string that goes on across lines; what comes after the first of them is a mistake. -/
def brokenString (length : Nat) : Reading Unit := do
  skipTrivia
  let text ← Parse.rest
  let line := countWhile (!isLineBreak ·) text
  Parse.branch "string" do
    Parse.leaf "string_fragment" true line
    Parse.leaf Node.errorKind true (length - line - 1)
    Parse.leaf "'" false 1

def string : Reading Unit := do
  let text ← ahead
  match stringLength? false text with
  | some n => token "string" true n
  | none =>
    match stringLength? true text with
    | some n => if (← Parse.settings).tolerant then brokenString n else Parse.fail
    | none => Parse.fail

def number : Reading Unit := do
  let n := numberLength (← ahead)
  if n = 0 then Parse.fail else token "number" true n

def regex : Reading Unit := do
  match regexLength? (← ahead) with
  | some n => token "regex" true n
  | none => Parse.fail

def isNext (op : String) : Reading Bool := do
  return (← nextOperator) == op

def isNextWord (word : String) : Reading Bool := do
  return (← nextWord) == word

def atStatementEnd (afterExpression : Bool) : Reading Bool := do
  let setting ← Parse.settings
  return setting.lineCloses && closesStatement setting.dialect.types afterExpression (← Parse.rest)

def inBrackets {α : Type} (p : Reading α) : Reading α :=
  Parse.withSettings (fun s => { s with lineCloses := false, resultTypes := true }) p

def inStatements {α : Type} (p : Reading α) : Reading α :=
  Parse.withSettings (fun s => { s with lineCloses := true, resultTypes := true }) p

/-- Reads a colon after an arrow function's parameters as one that belongs to the text around it. -/
def withoutResultTypes {α : Type} (p : Reading α) : Reading α :=
  Parse.withSettings (fun s => { s with resultTypes := false }) p

def strictly {α : Type} (p : Reading α) : Reading α :=
  Parse.withSettings (fun s => { s with tolerant := false }) p

def guess (p : Reading Unit) : Reading Bool := Parse.attempt (strictly p)

/-- A semicolon, written or implied by a line end, a closing brace or the end of the text. -/
def semicolon (afterExpression : Bool) : Reading Unit := do
  let types ← types
  if closesStatement types afterExpression (← Parse.rest) then pure () else operator ";"

def followsForgotten (text : List Char) : Bool :=
  match text with
  | [] => true
  | c :: _ => c == ';' || c == '\x7b' || c == '\x7d'

/-- A closing bracket; a tolerant reading assumes one where the text plainly goes on after it. -/
def close (bracket : Char) : Reading Unit := do
  let text ← ahead
  if text.head? == some bracket then token bracket.toString false 1
  else if (← Parse.settings).tolerant && followsForgotten text then Parse.assume bracket.toString
  else Parse.fail

def commaList (bracket : Char) (item : Reading Unit) : Reading Unit :=
  Parse.many do
    let next ← nextChar?
    if next == some bracket || next == none then pure false
    else if next == some ',' then do char ','; pure true
    else do
      item
      let next ← nextChar?
      if next == some ',' then do char ','; pure true
      else pure false

/-- One or more items with commas between them; a comma may also stand before the closing bracket. -/
def commaSeparated (bracket : Char) (item : Reading Unit) : Reading Unit :=
  Parse.many do
    let next ← nextChar?
    if next == some bracket || next == none then pure false
    else
      item
      if (← nextChar?) == some ',' then do char ','; pure true
      else pure false

end Reading

end Phrasebook.Script
