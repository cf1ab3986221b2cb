import Phrasebook.Log
import Phrasebook.Text.Word

namespace Phrasebook

structure Moment where
  year : Nat
  month : Nat
  day : Nat
  hour : Nat
  minute : Nat
  second : Nat
  millisecond : Nat
  deriving DecidableEq, Repr

def padded (width n : Nat) : String :=
  let digits := toString n
  String.ofList (List.replicate (width - digits.length) '0') ++ digits

namespace Moment

def part? (moment : Moment) (letter : Char) : Option String :=
  match letter with
  | 'Y' => some (padded 4 moment.year)
  | 'y' => some (padded 2 (moment.year % 100))
  | 'm' => some (padded 2 moment.month)
  | 'd' => some (padded 2 moment.day)
  | 'H' => some (padded 2 moment.hour)
  | 'M' => some (padded 2 moment.minute)
  | 'S' => some (padded 2 moment.second)
  | '%' => some "%"
  | _ => none

def render (moment : Moment) : List Char → String
  | '%' :: letter :: format =>
    match moment.part? letter with
    | some part => part ++ moment.render format
    | none => String.ofList ['%', letter] ++ moment.render format
  | c :: format => c.toString ++ moment.render format
  | [] => ""

def text (moment : Moment) (format : String) : String :=
  if format.isEmpty then moment.render "%Y-%m-%d %H:%M:%S".toList ++ "," ++ padded 3 moment.millisecond
  else moment.render format.toList

end Moment

structure Placement where
  toLeft : Bool
  withZeros : Bool
  width : Nat
  precision : Option Nat
  deriving DecidableEq, Repr

def Placement.apply (placement : Placement) (numeric : Bool) (text : String) : String :=
  let chars := match placement.precision with
    | some n => if numeric then text.toList else text.toList.take n
    | none => text.toList
  let fill := placement.width - chars.length
  String.ofList <|
    if placement.toLeft then chars ++ List.replicate fill ' '
    else List.replicate fill (if numeric && placement.withZeros then '0' else ' ') ++ chars

namespace LogFormat

inductive Piece where
  | char (c : Char)
  | field (name : String) (placement : Placement) (conversion : Char)
  deriving DecidableEq, Repr

def isFlag (c : Char) : Bool := "#0+- ".toList.contains c

def conversions : List Char := "diouxefgcrsaDIOUXEFGCRSA%".toList

def numberOf (digits : List Char) : Nat :=
  digits.foldl (fun n c => n * 10 + (c.toNat - '0'.toNat)) 0

def field? (text : List Char) : Option (Piece × List Char) := do
  let text ← ['('].isPrefixOf? text
  let name := text.takeWhile (· != ')')
  let text ← [')'].isPrefixOf? (text.drop name.length)
  let flags := text.takeWhile isFlag
  let text := text.drop flags.length
  let width := text.takeWhile Char.isDigit
  let text := text.drop width.length
  let (precision, text) := match text with
    | '.' :: text =>
      let digits := text.takeWhile Char.isDigit
      (some (numberOf digits), text.drop digits.length)
    | _ => (none, text)
  match text with
  | c :: text =>
    if conversions.contains c then
      let placement : Placement :=
        ⟨flags.contains '-', flags.contains '0', numberOf width, precision⟩
      some (.field (String.ofList name) placement c, text)
    else none
  | [] => none

/-- The pieces of a format; a doubled percent sign is one of text. Each piece takes a character. -/
def piecesFrom : Nat → List Char → List Piece
  | 0, _ => []
  | n + 1, text =>
    match text with
    | [] => []
    | '%' :: '%' :: text => .char '%' :: piecesFrom n text
    | '%' :: text =>
      match field? text with
      | some (piece, text) => piece :: piecesFrom n text
      | none => .char '%' :: piecesFrom n text
    | c :: text => .char c :: piecesFrom n text

def Piece.isField : Piece → Bool
  | char _ => false
  | field name _ _ => name != "" && name.toList.all Text.isWord

end LogFormat

structure LogFormat where
  threshold : Nat
  pieces : List LogFormat.Piece
  dateFormat : String
  deriving DecidableEq, Repr

namespace LogFormat

def messagePiece : Piece := .field "message" ⟨false, false, 0, none⟩ 's'

def bare : LogFormat := ⟨Level.warning.severity, [messagePiece], ""⟩

/-- The pieces of a format that has some field. A format that is empty shows the message. -/
def piecesOf? (format : String) : Option (List Piece) :=
  if format.isEmpty then some [messagePiece]
  else
    let found := piecesFrom (format.length + 1) format.toList
    if found.any Piece.isField then some found else none

def threshold? (word : String) : Option Nat :=
  match word.toUpper with
  | "CRITICAL" => some 50
  | "FATAL" => some 50
  | "ERROR" => some 40
  | "WARN" => some 30
  | "WARNING" => some 30
  | "INFO" => some 20
  | "DEBUG" => some 10
  | "NOTSET" => some 0
  | _ => none

def moduleOf (origin : String) : String :=
  String.ofList (origin.toList.reverse.takeWhile (· != '.')).reverse

def fieldText (format : LogFormat) (moment : Moment) (record : Record) (name : String) : String :=
  match name with
  | "message" => record.message
  | "name" => record.origin
  | "levelname" => record.level.name
  | "levelno" => toString record.level.severity
  | "module" => moduleOf record.origin
  | "asctime" => moment.text format.dateFormat
  | _ => ""

def pieceText (format : LogFormat) (moment : Moment) (record : Record) : Piece → String
  | .char c => c.toString
  | .field name placement conversion =>
    placement.apply (conversion == 'd' || conversion == 'i')
      (format.fieldText moment record name)

def line (format : LogFormat) (moment : Moment) (record : Record) : String :=
  String.join (format.pieces.map (format.pieceText moment record)) ++ "\n"

def render (format : LogFormat) (moment : Moment) (records : List Record) : String :=
  String.join ((records.filter fun r => format.threshold ≤ r.level.severity).map
    (format.line moment))

end LogFormat

end Phrasebook
