import Phrasebook.Syntax.Node
import Phrasebook.Text.Blank
import Phrasebook.Text.Position

namespace Phrasebook.Syntax

inductive Mistake where
  | missing (token : String)
  | unexpected (snippet : String)
  | elementsDisabled
  deriving DecidableEq, Repr

def Mistake.message : Mistake → String
  | .missing token => "Missing \"" ++ token ++ "\""
  | .unexpected snippet =>
    if snippet.isEmpty then "Unexpected token" else "Unexpected token \"" ++ snippet ++ "\""
  | .elementsDisabled => "JSX syntax is not enabled"

structure Diagnostic where
  mistake : Mistake
  position : Text.Position
  offset : Nat
  fatal : Bool
  deriving DecidableEq, Repr

namespace Diagnostic

def message (d : Diagnostic) : String := d.mistake.message

end Diagnostic

def snippetLength : Nat := 20

def snippet (source : List UInt8) (node : Node) : String :=
  let words := (Text.words (node.text source)).map String.ofList
  let line := " ".intercalate words
  if line.length ≤ snippetLength then line
  else String.ofList (line.toList.take snippetLength) ++ "..."

def contentEnd (source : List UInt8) : Nat :=
  (source.reverse.dropWhile Text.isBlankByte).length

def isElement (node : Node) : Bool := "jsx_".toList.isPrefixOf node.kind.toList

def mistakeOf? (source : List UInt8) (elementsDisabled : Bool) (node : Node) : Option Diagnostic :=
  let report (mistake : Mistake) (fatal : Bool) : Diagnostic :=
    ⟨mistake, Text.Position.ofOffset source node.start, node.start, fatal⟩
  if node.missing then some (report (.missing node.kind) (contentEnd source ≤ node.stop))
  else if node.kind == Node.errorKind then
    some (report (.unexpected (snippet source node)) (contentEnd source ≤ node.stop))
  else if elementsDisabled && isElement node then some (report .elementsDisabled false)
  else none

/-- What is reported at a node. Without elements to look for, parts that hold no error are passed
    over. -/
def judge (source : List UInt8) (elementsDisabled : Bool) (node : Node) : Node.Verdict Diagnostic :=
  match mistakeOf? source elementsDisabled node with
  | some d => .take d
  | none => if node.hasError || elementsDisabled then .enter else .skip

def mistakes (source : List UInt8) (elementsDisabled : Bool) (root : Node) : List Diagnostic :=
  Node.sweep (judge source elementsDisabled) [root]

def diagnostics (source : List UInt8) (elementsDisabled : Bool) (root : Node) : List Diagnostic :=
  (mistakes source elementsDisabled root).mergeSort fun a b => a.offset ≤ b.offset

end Phrasebook.Syntax
