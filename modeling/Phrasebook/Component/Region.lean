import Phrasebook.Syntax.Node
import Phrasebook.Text.Blank

namespace Phrasebook.Component

open Syntax Text

inductive RegionKind where
  | script
  | expression
  | literal
  deriving DecidableEq, Repr

structure Region where
  kind : RegionKind
  start : Nat
  /-- Where the region ends; below zero, it is counted from the end of the source. -/
  stop : Int
  typed : Bool
  deriving DecidableEq, Repr

def Region.stopIn (length : Nat) (region : Region) : Nat :=
  (if region.stop < 0 then length + region.stop else region.stop).toNat

def Region.text (source : List UInt8) (region : Region) : List Char :=
  decodeLossy ((source.drop region.start).take (region.stopIn source.length - region.start))

def ascii (text : String) : List UInt8 := encode text.toList

def occursIn (part : List UInt8) : List UInt8 → Bool
  | [] => part.isEmpty
  | b :: bytes => part.isPrefixOf (b :: bytes) || occursIn part bytes

def tagDeclaresTypes (tag : List UInt8) : Bool :=
  occursIn (ascii "lang=\"ts\"") tag || occursIn (ascii "lang='ts'") tag

def scriptRegion? (source : List UInt8) (node : Node) : Option Region := do
  let raw ← node.namedChildren.find? (·.kind == "raw_text")
  let tag := (node.namedChildren.find? (·.kind == "start_tag")).map (·.bytes source)
  return ⟨.script, raw.start, raw.stop, tag.any tagDeclaresTypes⟩

def firstDescendant? (kind : String) (node : Node) : Option Node :=
  (Node.visit [node]).find? (·.kind == kind)

def openingBrace : UInt8 := 0x7B

def closingBrace : UInt8 := 0x7D

namespace Svelte

def startsWithBrace (source : List UInt8) (node : Node) : Bool :=
  (source.drop node.start).head? == some openingBrace

def isExpressionTag (source : List UInt8) (node : Node) : Bool :=
  node.named && node.start + 2 ≤ node.stop && startsWithBrace source node &&
    (source.drop (node.stop - 1)).head? == some closingBrace &&
    !node.namedChildren.any (startsWithBrace source)

def isLetterByte (b : UInt8) : Bool := (65 ≤ b && b ≤ 90) || (97 ≤ b && b ≤ 122)

def isWordByte (b : UInt8) : Bool := isLetterByte b || (48 ≤ b && b ≤ 57) || b == 95

def isSigil (b : UInt8) : Bool := b == 35 || b == 58 || b == 47 || b == 64

def conditionLength (bytes : List UInt8) : Nat :=
  let blanks := bytes.takeWhile isBlankByte
  match bytes.drop blanks.length with
  | 105 :: 102 :: rest => if blanks.isEmpty || rest.head?.any isWordByte then 0 else blanks.length + 2
  | _ => 0

/-- The keyword at the start of a block or special tag, sigil included, and the length of everything
    up to what it applies to. -/
def keyword? (bytes : List UInt8) : Option (List UInt8 × Nat) :=
  let blanks := bytes.takeWhile isBlankByte
  match bytes.drop blanks.length with
  | sigil :: rest =>
    let letters := rest.takeWhile isLetterByte
    if isSigil sigil && !letters.isEmpty then
      let rest := rest.drop letters.length
      let condition := conditionLength rest
      let trailing := (rest.drop condition).takeWhile isBlankByte
      some (sigil :: letters, blanks.length + 1 + letters.length + condition + trailing.length)
    else none
  | [] => none

def literalKeyword : List UInt8 := ascii "#t"

def tagRegion? (source : List UInt8) (node : Node) : Option Region :=
  let stop := node.stop - 1
  let inside := (source.drop (node.start + 1)).take (stop - (node.start + 1))
  let (kind, length) := match keyword? inside with
    | some (word, length) => (if word == literalKeyword then .literal else .expression, length)
    | none => (RegionKind.expression, 0)
  if (inside.drop length).all isBlankByte then none
  else some ⟨kind, node.start + 1 + length, stop, false⟩

/-- What the walk over a component does at a node: whatever yields a region is not entered. -/
def judge (source : List UInt8) (node : Node) : Node.Verdict Region :=
  if node.kind == "script_element" then .ofOption (scriptRegion? source node)
  else if node.kind == "style_element" then .skip
  else if isExpressionTag source node then .ofOption (tagRegion? source node)
  else .enter

end Svelte

namespace Vue

def interpolationRegion (node : Node) : Region :=
  match firstDescendant? "raw_text" node with
  | some raw => ⟨.expression, raw.start, raw.stop, false⟩
  | none => ⟨.expression, node.start + 2, (node.stop : Int) - 2, false⟩

def literalDirective : List UInt8 := ascii "v-t"

def directiveRegion? (source : List UInt8) (node : Node) : Option Region := do
  let value ← firstDescendant? "attribute_value" node
  if value.start == value.stop then none
  else
    let name := (firstDescendant? "directive_name" node).map (·.bytes source)
    let kind := if name == some literalDirective then .literal else .expression
    return ⟨kind, value.start, value.stop, false⟩

/-- What the walk over a component does at a node: whatever yields a region is not entered. -/
def judge (source : List UInt8) (node : Node) : Node.Verdict Region :=
  if node.kind == "script_element" then .ofOption (scriptRegion? source node)
  else if node.kind == "interpolation" then .take (interpolationRegion node)
  else if node.kind == "directive_attribute" then .ofOption (directiveRegion? source node)
  else if node.kind == "style_element" then .skip
  else .enter

end Vue

end Phrasebook.Component
