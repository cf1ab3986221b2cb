import Phrasebook.Script.Element
import Phrasebook.Script.Source
import Phrasebook.Script.Statement

namespace Phrasebook.Script

open Syntax

def rules : Nat → Rules
  | 0, _ => Parse.fail
  | n + 1, part =>
    let g : Rules := rules n
    match part with
    | .statement => statement g
    | .block => block g
    | .sequence => sequence g
    | .expression => expression g
    | .binary least => binary g least
    | .unary => unary g
    | .target => target g
    | .bound => bound g
    | .type => typeExpression g
    | .operandType => operandType g
    | .element => element g
    | .decorator => decorator g
    | .classOperand => classOperand g
    | .construction => construction g

/-- Every part that contains another one reads a character or passes at most a handful of levels
    first, so a multiple of the text's length bounds the nesting. -/
def depthBound (text : List Char) : Nat := 8 * text.length + 16

def hashBang : Reading Unit := do
  match ← Parse.rest with
  | '#' :: '!' :: text => Parse.leaf "hash_bang_line" true (2 + countWhile (!isLineBreak ·) text)
  | _ => pure ()

def program (g : Rules) : Reading Unit :=
  Parse.branch "program" do
    hashBang
    statements g (fun _ => false)
    Reading.skipTrivia
    Parse.require (← Parse.rest).isEmpty

def run (dialect : Dialect) (tolerant : Bool) (text : List Char) : Step Unit :=
  program (rules (depthBound text)) ⟨dialect, true, dialect.types, tolerant⟩ ⟨text, 0, []⟩

def parseStrict? (dialect : Dialect) (text : List Char) : Option Node :=
  match run dialect false text with
  | .read _ c => c.nodes.head?
  | .stuck _ => none

def parseTolerant (dialect : Dialect) (text : List Char) : Node :=
  match run dialect true text with
  | .read _ c => c.nodes.head?.getD (Node.branch "program" 0 [])
  | .stuck c => Node.branch Node.errorKind 0 c.nodes.reverse

def parse (dialect : Dialect) (text : List Char) : Node :=
  (parseStrict? dialect text).getD (parseTolerant dialect text)

def Grammar.dialect : Grammar → Dialect
  | .javascript => ⟨true, false⟩
  | .typescript => ⟨false, true⟩
  | .tsx => ⟨true, true⟩

def Parsers.byRules : Parsers := fun grammar bytes => parse grammar.dialect (Text.decodeLossy bytes)

end Phrasebook.Script
