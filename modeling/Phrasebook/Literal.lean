import Phrasebook.Text.Blank
import Phrasebook.Text.Letter

namespace Phrasebook.Literal

inductive Fault where
  | aboveLast
  | tooLarge
  deriving DecidableEq, Repr

def Fault.message : Fault → String
  | .aboveLast => "chr() arg not in range(0x110000)"
  | .tooLarge => "Python int too large to convert to C int"

def isHex (c : Char) : Bool :=
  c.isDigit || ('a' ≤ c && c ≤ 'f') || ('A' ≤ c && c ≤ 'F')

def hexValue (c : Char) : Nat :=
  if c.isDigit then c.toNat - '0'.toNat
  else if 'a' ≤ c then c.toNat - 'a'.toNat + 10
  else c.toNat - 'A'.toNat + 10

def readHex (digits : List Char) : Nat :=
  digits.foldl (fun n c => n * 16 + hexValue c) 0

/-- What the characters after a backslash denote: how many of them belong to the escape, and the code
    point, if any. -/
structure Escape where
  length : Nat
  codePoint : Option Nat

def simpleEscape (c : Char) : Option Nat :=
  match c with
  | 'n' => some 10
  | 't' => some 9
  | 'r' => some 13
  | 'b' => some 8
  | 'f' => some 12
  | 'v' => some 11
  | '0' => some 0
  | '\n' => none
  | '\u2028' => none
  | '\u2029' => none
  | c => some c.toNat

def fixedEscape? (n : Nat) (text : List Char) : Option Escape :=
  let digits := (text.take n).takeWhile isHex
  if digits.length = n then some ⟨n + 1, some (readHex digits)⟩ else none

def bracedEscape? : List Char → Option Escape
  | '\x7b' :: text =>
    let digits := text.takeWhile isHex
    if !digits.isEmpty && (text.drop digits.length).head? == some '\x7d' then
      some ⟨digits.length + 3, some (readHex digits)⟩
    else none
  | _ => none

def escape? : List Char → Option Escape
  | [] => none
  | '\r' :: '\n' :: _ => some ⟨2, none⟩
  | c :: text =>
    let numeric :=
      if c == 'u' then (bracedEscape? text).or (fixedEscape? 4 text)
      else if c == 'x' then fixedEscape? 2 text
      else none
    some (numeric.getD ⟨1, simpleEscape c⟩)

def lastCodePoint : Nat := 0x10FFFF

def checkCodePoint (n : Nat) : Except Fault Nat :=
  if n ≤ lastCodePoint then .ok n
  else if n < 0x80000000 then .error .aboveLast
  else .error .tooLarge

/-- The code points a raw string denotes; the first argument counts the characters already known to
    belong to an escape. A backslash at the very end denotes itself. -/
def codePointsFrom : Nat → List Char → Except Fault (List Nat)
  | _, [] => .ok []
  | n + 1, _ :: text => codePointsFrom n text
  | 0, c :: text =>
    if c == '\\' then
      match escape? text with
      | none => .ok [c.toNat]
      | some ⟨n, none⟩ => codePointsFrom n text
      | some ⟨n, some code⟩ => do
        let code ← checkCodePoint code
        return code :: (← codePointsFrom n text)
    else do return c.toNat :: (← codePointsFrom 0 text)

/-- The text that the raw contents of a quoted string denote. Every number makes one letter of it, also
    where two of them are the halves of a surrogate pair. -/
def cook (raw : List Char) : Except Fault Wording :=
  (List.map Letter.ofCodePoint) <$> codePointsFrom 0 raw

def unescape (marked plain : Char) : List Char → List Char
  | c :: d :: text =>
    if c == '\\' && d == marked then plain :: unescape marked plain text
    else c :: unescape marked plain (d :: text)
  | text => text

def templateEscapes : List (Char × Char) :=
  [('\'', '\''), ('"', '"'), ('\x60', '\x60'), ('n', '\n'), ('t', '\t'), ('r', '\r'), ('\\', '\\')]

/-- White space that holds a line feed becomes one space; the first argument is the white space just
    passed, latest first. -/
def joinLinesFrom : List Char → List Char → List Char
  | run, [] => flush run
  | run, c :: text =>
    if Text.isBlank c then joinLinesFrom (c :: run) text
    else flush run ++ c :: joinLinesFrom [] text
where
  flush (run : List Char) : List Char := if run.contains '\n' then [' '] else run.reverse

def joinLines (text : List Char) : List Char := joinLinesFrom [] text

def normalize (raw : List Char) : List Char :=
  Text.strip <| joinLines <|
    templateEscapes.foldl (fun text (marked, plain) => unescape marked plain text) raw

end Phrasebook.Literal
