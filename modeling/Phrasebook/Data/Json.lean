import Phrasebook.Data
import Phrasebook.Literal
import Phrasebook.Text.Position

namespace Phrasebook.Data.Json

open Literal (isHex readHex)
open Letter (isHighSurrogate isLowSurrogate joinSurrogates)

inductive Mistake where
  | value
  | propertyName
  | colon
  | comma
  | extraData
  | unterminatedString
  | controlCharacter
  | escape
  | unicodeEscape
  | byteOrderMark
  deriving DecidableEq, Repr

def Mistake.message : Mistake → String
  | value => "Expecting value"
  | propertyName => "Expecting property name enclosed in double quotes"
  | colon => "Expecting ':' delimiter"
  | comma => "Expecting ',' delimiter"
  | extraData => "Extra data"
  | unterminatedString => "Unterminated string starting at"
  | controlCharacter => "Invalid control character at"
  | escape => "Invalid \\escape"
  | unicodeEscape => "Invalid \\uXXXX escape"
  | byteOrderMark => "Unexpected UTF-8 BOM (decode using utf-8-sig)"

/-- A mistake with the number of characters from its place to the end of the text. -/
structure Fault where
  mistake : Mistake
  remaining : Nat
  deriving DecidableEq, Repr

structure Error where
  mistake : Mistake
  index : Nat
  position : Text.Position
  deriving DecidableEq, Repr

def Error.ofFault (text : List Char) (fault : Fault) : Error :=
  let index := text.length - fault.remaining
  ⟨fault.mistake, index, Text.Position.ofIndex text index⟩

def Error.message (error : Error) : String :=
  error.mistake.message ++ ": line " ++ toString error.position.line ++ " column " ++
    toString error.position.column ++ " (char " ++ toString error.index ++ ")"

abbrev Reading (α : Type) := α × List Char

def refuse {α : Type} (mistake : Mistake) (text : List Char) : Except Fault α :=
  .error ⟨mistake, text.length⟩

def isBlank (c : Char) : Bool := c == ' ' || c == '\t' || c == '\n' || c == '\r'

def skipBlanks (text : List Char) : List Char := text.dropWhile isBlank

def hex4? (text : List Char) : Option Nat :=
  let digits := (text.take 4).takeWhile isHex
  if digits.length = 4 then some (readHex digits) else none

def letterEscape? (c : Char) : Option Char :=
  match c with
  | '"' => some '"'
  | '\\' => some '\\'
  | '/' => some '/'
  | 'b' => some '\x08'
  | 'f' => some '\x0c'
  | 'n' => some '\n'
  | 'r' => some '\r'
  | 't' => some '\t'
  | _ => none

/-- The code unit of a numeric escape, from its letter on. The escape may not end the text. -/
def codeUnit (text : List Char) : Except Fault Nat :=
  if (text.drop 5).isEmpty then refuse .unicodeEscape text
  else
    match hex4? (text.drop 1) with
    | some n => .ok n
    | none => refuse .unicodeEscape text

def lowHalf? (text : List Char) : Except Fault (Option Nat) :=
  match text with
  | '\\' :: 'u' :: digits =>
    if (digits.drop 4).isEmpty then .ok none
    else do
      let low ← codeUnit ('u' :: digits)
      return if isLowSurrogate low then some low else none
  | _ => .ok none

/-- The characters an escape denotes, from what follows its backslash on, and its length without the
    backslash. The first argument is the text from the opening quote on. -/
def escape (opening text : List Char) : Except Fault (List Char × Nat) :=
  match text with
  | [] => refuse .unterminatedString opening
  | c :: rest =>
    if c == 'u' then do
      let high ← codeUnit text
      if isHighSurrogate high then
        match ← lowHalf? (text.drop 5) with
        | some low => return (joinSurrogates [high, low], 11)
        | none => return (joinSurrogates [high], 5)
      else return (joinSurrogates [high], 5)
    else
      match letterEscape? c with
      | some denoted => .ok ([denoted], 1)
      | none => refuse .escape ('\\' :: c :: rest)

/-- A string from the inside on. The next `covered` characters belong to an escape already read. -/
def stringFrom (opening : List Char) : (covered : Nat) → List Char → Except Fault (Reading (List Char))
  | _, [] => refuse .unterminatedString opening
  | covered + 1, _ :: text => stringFrom opening covered text
  | 0, c :: text =>
    if c == '"' then .ok ([], text)
    else if c == '\\' then do
      let (denoted, length) ← escape opening text
      let (value, rest) ← stringFrom opening length text
      return (denoted ++ value, rest)
    else if c.toNat < 0x20 then refuse .controlCharacter (c :: text)
    else do
      let (value, rest) ← stringFrom opening 0 text
      return (c :: value, rest)

def quoted (text : List Char) : Except Fault (Reading (List Char)) := stringFrom text 0 (text.drop 1)

def wholeDigits (text : List Char) : List Char :=
  match text with
  | '0' :: _ => ['0']
  | _ => text.takeWhile Char.isDigit

/-- A fraction at the start of a text, its point included; nothing if there is no digit. -/
def fraction (text : List Char) : List Char :=
  match text with
  | '.' :: text =>
    let digits := text.takeWhile Char.isDigit
    if digits.isEmpty then [] else '.' :: digits
  | _ => []

/-- An exponent at the start of a text, its letter included; nothing if there is no digit. -/
def exponent (text : List Char) : List Char :=
  match text with
  | letter :: text =>
    if letter == 'e' || letter == 'E' then
      let sign := (text.take 1).filter fun c => c == '+' || c == '-'
      let digits := (text.drop sign.length).takeWhile Char.isDigit
      if digits.isEmpty then [] else letter :: sign ++ digits
    else []
  | [] => []

def readDecimal (digits : List Char) : Nat :=
  digits.foldl (fun n c => n * 10 + (c.toNat - '0'.toNat)) 0

def number (text : List Char) : Except Fault (Reading Data) :=
  let sign := (text.take 1).filter (· == '-')
  let afterSign := text.drop sign.length
  let whole := wholeDigits afterSign
  if whole.isEmpty then refuse .value text
  else
    let afterWhole := afterSign.drop whole.length
    let point := fraction afterWhole
    let power := exponent (afterWhole.drop point.length)
    let written := sign ++ whole ++ point ++ power
    let data :=
      if point.isEmpty && power.isEmpty then
        let n : Int := readDecimal whole
        .integer (if sign.isEmpty then n else -n)
      else .decimal (String.ofList written) ((whole ++ point).all fun c => c == '0' || c == '.')
    .ok (data, text.drop written.length)

def words : List (List Char × Data) :=
  [("null".toList, .null), ("true".toList, .bool true), ("false".toList, .bool false),
    ("NaN".toList, .decimal "NaN" false), ("Infinity".toList, .decimal "Infinity" false),
    ("-Infinity".toList, .decimal "-Infinity" false)]

def scalar (text : List Char) : Except Fault (Reading Data) :=
  match words.findSome? fun (word, data) => (word.isPrefixOf? text).map (data, ·) with
  | some found => .ok found
  | none => number text

mutual

/-- A value at the start of a text; at most `n` values are nested or stand side by side. -/
def value : (n : Nat) → List Char → Except Fault (Reading Data)
  | 0, text => refuse .value text
  | n + 1, text =>
    match text with
    | '"' :: _ => do
      let (characters, rest) ← quoted text
      return (.string (String.ofList characters), rest)
    | '\x7b' :: text =>
      match skipBlanks text with
      | '\x7d' :: rest => .ok (.mapping [], rest)
      | text => do
        let (entries, rest) ← members n text
        return (.mapping entries, rest)
    | '[' :: text =>
      match skipBlanks text with
      | ']' :: rest => .ok (.list [], rest)
      | text => do
        let (items, rest) ← elements n text
        return (.list items, rest)
    | text => scalar text

def members : (n : Nat) → List Char → Except Fault (Reading (List (Data × Data)))
  | 0, text => refuse .propertyName text
  | n + 1, text =>
    match text with
    | '"' :: _ => do
      let (key, rest) ← quoted text
      match skipBlanks rest with
      | ':' :: rest => do
        let (data, rest) ← value n (skipBlanks rest)
        let member := (Data.string (String.ofList key), data)
        match skipBlanks rest with
        | '\x7d' :: rest => return ([member], rest)
        | ',' :: rest => do
          let (others, rest) ← members n (skipBlanks rest)
          return (member :: others, rest)
        | rest => refuse .comma rest
      | rest => refuse .colon rest
    | text => refuse .propertyName text

def elements : (n : Nat) → List Char → Except Fault (Reading (List Data))
  | 0, text => refuse .value text
  | n + 1, text => do
    let (data, rest) ← value n text
    match skipBlanks rest with
    | ']' :: rest => return ([data], rest)
    | ',' :: rest => do
      let (others, rest) ← elements n (skipBlanks rest)
      return (data :: others, rest)
    | rest => refuse .comma rest

end

def byteOrderMark : Char := '\uFEFF'

def document (text : List Char) : Except Fault Data :=
  if text.head? == some byteOrderMark then refuse .byteOrderMark text
  else do
    let (data, rest) ← value (text.length + 1) (skipBlanks text)
    match skipBlanks rest with
    | [] => return data
    | rest => refuse .extraData rest

def parse (text : List Char) : Except Error Data :=
  (document text).mapError (Error.ofFault text)

def escaped (c : Char) : List Char :=
  match c with
  | '"' => ['\\', '"']
  | '\\' => ['\\', '\\']
  | '\n' => ['\\', 'n']
  | '\r' => ['\\', 'r']
  | '\t' => ['\\', 't']
  | '\x08' => ['\\', 'b']
  | '\x0c' => ['\\', 'f']
  | c =>
    if c.toNat < 0x20 then
      ['\\', 'u', '0', '0', Char.ofNat ('0'.toNat + c.toNat / 16), hexDigit (c.toNat % 16)]
    else [c]
where
  hexDigit (n : Nat) : Char :=
    if n < 10 then Char.ofNat ('0'.toNat + n) else Char.ofNat ('a'.toNat + (n - 10))

def quote (text : List Char) : List Char := '"' :: text.flatMap escaped ++ ['"']

end Phrasebook.Data.Json
