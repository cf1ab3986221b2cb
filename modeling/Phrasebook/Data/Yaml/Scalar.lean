import Phrasebook.Data.Yaml.Cursor

namespace Phrasebook.Data.Yaml

open Reader
open Literal (isHex readHex)
open Letter (joinSurrogates)

def foldBreaks (first : Char) (others : List Char) : List Char :=
  if first != '\n' then first :: others else if others.isEmpty then [' '] else others

namespace Plain

def closesFlow (c : Char) : Bool := ",[]\x7b\x7d".toList.contains c

def endsBefore (inFlow : Bool) (c : Char) (next : Option Char) : Bool :=
  endsWord (some c) || (c == ':' && (endsWord next || (inFlow && next.any closesFlow))) ||
    (inFlow && (c == '?' || closesFlow c))

def runLength (inFlow : Bool) : List Char → Nat
  | [] => 0
  | c :: text => if endsBefore inFlow c text.head? then 0 else runLength inFlow text + 1

def emptyLines : Nat → Reader (Option (List Char))
  | 0 => return some []
  | n + 1 => do
    match ← peek? with
    | some ' ' =>
      skip 1
      emptyLines n
    | _ =>
      match ← lineBreak? with
      | none => return some []
      | some c =>
        if beginsMarker (← rest) then return none
        else return (← emptyLines n).map (c :: ·)

/-- Reads what separates two runs of plain text: what it stands for, and whether it has a line
    break. -/
def gap : Reader (List Char × Bool) := do
  let blanks ← takeWhile (· == ' ')
  match ← lineBreak? with
  | none => return (blanks, false)
  | some first =>
    let text ← rest
    if beginsMarker text then return ([], true)
    else
      let others ← emptyLines text.length
      return ((others.map (foldBreaks first)).getD [], true)

/-- Reads runs of plain text indented enough, after a gap that belongs to it if a run follows. Says
    also whether the text ends with a line break. -/
def runs (inFlow : Bool) (indent : Int) : Nat → List Char × Bool → Reader (List Char × Bool)
  | 0, before => return ([], before.2)
  | n + 1, before => do
    let text ← rest
    let length := runLength inFlow text
    if text.head? == some '#' || length == 0 then return ([], before.2)
    else
      skip length
      let after ← gap
      let run := before.1 ++ text.take length
      let cursor ← get
      if after.1.isEmpty || cursor.rest.head? == some '#' ||
          (!inFlow && (cursor.column : Int) < indent) then return (run, after.2)
      else
        let (more, broken) ← runs inFlow indent n after
        return (run ++ more, broken)

def read (inFlow : Bool) (indent : Int) : Reader (List Char × Bool) := do
  runs inFlow indent ((← rest).length + 1) ([], false)

end Plain

namespace InQuotes

def letterEscape? (c : Char) : Option Nat :=
  match c with
  | '0' => some 0
  | 'a' => some 7
  | 'b' => some 8
  | 't' => some 9
  | '\t' => some 9
  | 'n' => some 10
  | 'v' => some 11
  | 'f' => some 12
  | 'r' => some 13
  | 'e' => some 27
  | ' ' => some 32
  | '"' => some 34
  | '\\' => some 92
  | '/' => some 47
  | 'N' => some 0x85
  | '_' => some 0xA0
  | 'L' => some 0x2028
  | 'P' => some 0x2029
  | _ => none

def digitsOf (c : Char) : Nat :=
  match c with
  | 'x' => 2
  | 'u' => 4
  | 'U' => 8
  | _ => 0

/-- Reads the empty lines after a line break. No marker may stand at the start of a line. -/
def emptyLines : Nat → Reader (List Char)
  | 0 => return []
  | n + 1 => do
    if beginsMarker (← rest) then fail
    else
      let _ ← takeWhile isGap
      match ← lineBreak? with
      | some c => return c :: (← emptyLines n)
      | none => return []

def escape : Reader (List Nat) := do
  match ← rest with
  | [] => fail
  | c :: text =>
    match letterEscape? c, digitsOf c with
    | some n, _ =>
      skip 1
      return [n]
    | none, 0 =>
      match ← lineBreak? with
      | some _ => return (← emptyLines (text.length + 1)).map (·.toNat)
      | none => fail
    | none, count =>
      let digits := text.take count
      if digits.length == count && digits.all isHex then
        let code := readHex digits
        if code ≤ 0x10FFFF then
          skip (count + 1)
          return [code]
        else throw (.range "chr() arg not in range(0x110000)")
      else fail

def gap : Reader (List Char) := do
  let blanks ← takeWhile isGap
  match ← lineBreak? with
  | some first => return foldBreaks first (← emptyLines ((← rest).length + 1))
  | none => if (← rest).isEmpty then fail else return blanks

def body (quote : Char) : Nat → Reader (List Nat)
  | 0 => fail
  | n + 1 => do
    match ← rest with
    | [] => fail
    | c :: text =>
      if c == quote && quote == '\'' && text.head? == some quote then
        skip 2
        return quote.toNat :: (← body quote n)
      else if c == quote then
        skip 1
        return []
      else if c == '\\' && quote == '"' then
        skip 1
        let code ← escape
        return code ++ (← body quote n)
      else if endsWord (some c) then
        let blanks ← gap
        return blanks.map (·.toNat) ++ (← body quote n)
      else
        skip 1
        return c.toNat :: (← body quote n)

def read : Reader (List Char) := do
  match ← rest with
  | [] => fail
  | quote :: text =>
    skip 1
    return joinSurrogates (← body quote (text.length + 1))

end InQuotes

namespace Block

/-- What becomes of the line breaks at the end of a block. -/
inductive Chomping where
  | clip
  | strip
  | keep
  deriving DecidableEq, Repr

structure Header where
  chomping : Chomping
  /-- By how much the block is indented, if that is said. -/
  increment : Option Nat
  deriving DecidableEq, Repr

def chomping : Reader Chomping := do
  match ← peek? with
  | some '+' =>
    skip 1
    return .keep
  | some '-' =>
    skip 1
    return .strip
  | _ => return .clip

def increment : Reader (Option Nat) := do
  match ← peek? with
  | some c =>
    if c == '0' then fail
    else if c.isDigit then
      skip 1
      return some (c.toNat - '0'.toNat)
    else return none
  | none => return none

def header : Reader Header := do
  let first ← chomping
  let amount ← increment
  let chomping ← if first == .clip then chomping else pure first
  if (← peek?).all fun c => c == ' ' || isBreak c then
    lineEnd
    return ⟨chomping, amount⟩
  else fail

def indentTo (column : Nat) : Reader Unit := do
  let cursor ← get
  skip (((cursor.rest.take (column - cursor.column)).takeWhile (· == ' ')).length)

def emptyLines (column : Nat) : Nat → Reader (List Char)
  | 0 => return []
  | n + 1 => do
    indentTo column
    match ← lineBreak? with
    | some c => return c :: (← emptyLines column n)
    | none => return []

/-- Reads empty lines, and finds the widest indentation among them and the line after them. -/
def leadingLines : Nat → Nat → Reader (List Char × Nat)
  | 0, widest => return ([], widest)
  | n + 1, widest => do
    let _ ← takeWhile (· == ' ')
    let widest := max widest (← get).column
    match ← lineBreak? with
    | some c =>
      let (breaks, widest) ← leadingLines n widest
      return (c :: breaks, widest)
    | none => return ([], widest)

/-- A block read so far: its text, the break that ends its last line, and the empty lines after
    it. -/
structure Body where
  text : List Char
  last : Option Char
  breaks : List Char

/-- Reads the lines indented to a column. A break between two lines of folded text becomes a space,
    unless one of them begins with white space. -/
def lines (folded : Bool) (column : Nat) : Nat → Body → Reader Body
  | 0, body => return body
  | n + 1, body => do
    let cursor ← get
    if cursor.column != column || cursor.rest.isEmpty then return body
    else
      let line ← takeWhile (!isBreak ·)
      let last ← lineBreak?
      let breaks ← emptyLines column ((← rest).length + 1)
      let text := body.text ++ body.breaks ++ line
      let cursor ← get
      if cursor.column != column || cursor.rest.isEmpty then return ⟨text, last, breaks⟩
      else
        let folds := folded && last == some '\n' && !line.head?.any isGap &&
          !cursor.rest.head?.any isGap
        let joint := if !folds then last.toList else if breaks.isEmpty then [' '] else []
        lines folded column n ⟨text ++ joint, last, breaks⟩

def read (indent : Int) : Reader (List Char) := do
  let folded := (← peek?) == some '>'
  skip 1
  let header ← header
  let least := (max (indent + 1) 1).toNat
  let count := (← rest).length + 1
  let (breaks, column) ← match header.increment with
    | some amount => do
      let column := least + amount - 1
      pure (← emptyLines column count, column)
    | none => do
      let (breaks, widest) ← leadingLines count 0
      pure (breaks, max least widest)
  let body ← lines folded column count ⟨[], none, breaks⟩
  return body.text ++ match header.chomping with
    | .strip => []
    | .clip => body.last.toList
    | .keep => body.last.toList ++ body.breaks

end Block

end Phrasebook.Data.Yaml
