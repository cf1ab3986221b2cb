import Phrasebook.Literal

namespace Phrasebook.Data.Yaml

inductive Fault where
  /-- It departs from the format, or asks for a type that is not offered. -/
  | malformed
  /-- A scalar of the right form is outside the range of its type. -/
  | range (message : String)
  | noTruth
  deriving DecidableEq, Repr

structure Cursor where
  rest : List Char
  index : Nat
  line : Nat
  column : Nat
  deriving DecidableEq, Repr

abbrev Reader := StateT Cursor (Except Fault)

def isBreak (c : Char) : Bool :=
  c == '\n' || c == '\u0085' || c == '\u2028' || c == '\u2029'

def isGap (c : Char) : Bool := c == ' ' || c == '\t'

def endsWord (c : Option Char) : Bool := c.all fun c => isGap c || isBreak c

def isPrintable (c : Char) : Bool :=
  let n := c.toNat
  n == 9 || n == 10 || n == 13 || (0x20 ≤ n && n ≤ 0x7E) || n == 0x85 ||
    (0xA0 ≤ n && n ≤ 0xFFFD) || 0x10000 ≤ n

def beginsMarker : List Char → Bool
  | a :: b :: c :: text => a == b && b == c && (a == '-' || a == '.') && endsWord text.head?
  | _ => false

def byteOrderMark : Char := '\uFEFF'

namespace Cursor

def start (text : List Char) : Cursor := ⟨text, 0, 0, 0⟩

def next (cursor : Cursor) : Cursor :=
  match cursor.rest with
  | [] => cursor
  | c :: rest =>
    if isBreak c then ⟨rest, cursor.index + 1, cursor.line + 1, 0⟩
    else ⟨rest, cursor.index + 1, cursor.line,
      if c == byteOrderMark then cursor.column else cursor.column + 1⟩

def advance : Nat → Cursor → Cursor
  | 0, cursor => cursor
  | n + 1, cursor => advance n cursor.next

end Cursor

namespace Reader

def rest : Reader (List Char) := return (← get).rest

def peek? : Reader (Option Char) := return (← get).rest.head?

def skip (n : Nat) : Reader Unit := modify (Cursor.advance n)

def fail {α : Type} : Reader α := throw .malformed

def takeWhile (p : Char → Bool) : Reader (List Char) := do
  let run := (← rest).takeWhile p
  skip run.length
  return run

def lineBreak? : Reader (Option Char) := do
  match ← peek? with
  | some c =>
    if isBreak c then
      skip 1
      return some (if c == '\u0085' then '\n' else c)
    else return none
  | none => return none

def lineEnd : Reader Unit := do
  let _ ← takeWhile (· == ' ')
  if (← peek?) == some '#' then
    let _ ← takeWhile (!isBreak ·)
  if (← peek?).all isBreak then
    let _ ← lineBreak?
  else fail

end Reader

end Phrasebook.Data.Yaml
