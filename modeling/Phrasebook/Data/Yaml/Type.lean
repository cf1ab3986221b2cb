import Phrasebook.Data
import Phrasebook.Data.Yaml.Cursor
import Phrasebook.Text.Quoted
import Phrasebook.Text.Split

namespace Phrasebook.Data.Yaml

inductive ScalarType where
  | null
  | bool
  | integer
  | decimal
  | timestamp
  | text
  | merge
  /-- Reserved for the value of a node that is more than a value. -/
  | value
  deriving DecidableEq, Repr

def truths : List (String × Bool) :=
  [("yes", true), ("no", false), ("true", true), ("false", false), ("on", true), ("off", false)]

def spellings (word : String) : List (List Char) :=
  [word.toList, word.toUpper.toList, word.capitalize.toList]

def isOneOf (words : List String) (text : List Char) : Bool :=
  (words.flatMap spellings).contains text

def isNullText (text : List Char) : Bool :=
  text.isEmpty || text == ['~'] || isOneOf ["null"] text

def isSpaced (p : Char → Bool) (text : List Char) : Bool := text.all fun c => p c || c == '_'

def withoutSign : List Char → List Char
  | '+' :: text => text
  | '-' :: text => text
  | text => text

def startsWithDigit (text : List Char) : Bool := text.head?.any Char.isDigit

def isSixtieth (text : List Char) : Bool :=
  match text with
  | [a] => a.isDigit
  | [a, b] => '0' ≤ a && a ≤ '5' && b.isDigit
  | _ => false

def isSexagesimal (text : List Char) : Bool :=
  match Text.splitAt ':' text with
  | first :: second :: rest =>
    startsWithDigit first && isSpaced Char.isDigit first && (second :: rest).all isSixtieth
  | _ => false

def isBinary (c : Char) : Bool := c == '0' || c == '1'

def isOctal (c : Char) : Bool := '0' ≤ c && c ≤ '7'

def isIntegerText (text : List Char) : Bool :=
  let text := withoutSign text
  match text with
  | ['0'] => true
  | '0' :: 'b' :: digits => !digits.isEmpty && isSpaced isBinary digits
  | '0' :: 'x' :: digits => !digits.isEmpty && isSpaced Literal.isHex digits
  | '0' :: digits => isSpaced isOctal digits
  | c :: _ => c.isDigit && (isSpaced Char.isDigit text || isSexagesimal text)
  | [] => false

def isExponent (text : List Char) : Bool :=
  match text with
  | [] => true
  | e :: sign :: digits =>
    (e == 'e' || e == 'E') && (sign == '+' || sign == '-') && !digits.isEmpty &&
      digits.all Char.isDigit
  | _ => false

def isDigitOrSpace (c : Char) : Bool := c.isDigit || c == '_'

def isFraction (text : List Char) : Bool := isExponent (text.dropWhile isDigitOrSpace)

def isDecimalText (text : List Char) : Bool :=
  let digits := withoutSign text
  let whole := digits.takeWhile (· != '.')
  match digits.drop whole.length with
  | '.' :: fraction =>
    if whole.isEmpty then
      (digits == text && startsWithDigit fraction && isFraction fraction) ||
        ["inf".toList, "Inf".toList, "INF".toList].contains fraction ||
        (digits == text && ["nan".toList, "NaN".toList, "NAN".toList].contains fraction)
    else if whole.contains ':' then isSexagesimal whole && isSpaced Char.isDigit fraction
    else startsWithDigit whole && isSpaced Char.isDigit whole && isFraction fraction
  | _ => false

def number? (least most : Nat) (text : List Char) : Option (Nat × List Char) :=
  let digits := (text.take most).takeWhile Char.isDigit
  if digits.length < least then none
  else some (digits.foldl (fun n c => n * 10 + (c.toNat - '0'.toNat)) 0, text.drop digits.length)

structure Timestamp where
  year : Nat
  month : Nat
  day : Nat
  time : Option (Nat × Nat × Nat)
  deriving DecidableEq, Repr

def sign? (c : Char) : List Char → Option (List Char)
  | d :: text => if d == c then some text else none
  | [] => none

def isZone (text : List Char) : Bool :=
  let zone := text.dropWhile isGap
  text.isEmpty || zone == ['Z'] ||
    (match zone with
      | c :: zone =>
        (c == '+' || c == '-') && ((number? 1 2 zone).any fun (_, rest) => rest.isEmpty ||
          ((sign? ':' rest).bind (number? 2 2)).any (·.2.isEmpty))
      | [] => false)

def timeOfDay? (text : List Char) : Option (Nat × Nat × Nat) := do
  let text ← match text with
    | 'T' :: text => some text
    | 't' :: text => some text
    | c :: text => if isGap c then some (text.dropWhile isGap) else none
    | [] => none
  let (hour, text) ← number? 1 2 text
  let text ← sign? ':' text
  let (minute, text) ← number? 2 2 text
  let text ← sign? ':' text
  let (second, text) ← number? 2 2 text
  let text := match text with
    | '.' :: text => text.dropWhile Char.isDigit
    | _ => text
  if isZone text then some (hour, minute, second) else none

def timestamp? (text : List Char) : Option Timestamp := do
  let (year, rest) ← number? 4 4 text
  let rest ← sign? '-' rest
  let (month, rest) ← number? 1 2 rest
  let rest ← sign? '-' rest
  let (day, rest) ← number? 1 2 rest
  if rest.isEmpty then
    if text.length == 10 then return ⟨year, month, day, none⟩ else none
  else return ⟨year, month, day, some (← timeOfDay? rest)⟩

def ScalarType.ofText (text : List Char) : ScalarType :=
  if isNullText text then null
  else if isOneOf (truths.map (·.1)) text then bool
  else if isDecimalText text then decimal
  else if isIntegerText text then integer
  else if text == ['<', '<'] then merge
  else if text == ['='] then value
  else if (timestamp? text).isSome then timestamp
  else .text

def digitValue (c : Char) : Nat :=
  if c.isDigit then c.toNat - '0'.toNat else c.toLower.toNat - 'a'.toNat + 10

def valueOfDigits (base : Nat) (digits : List Char) : Nat :=
  digits.foldl (fun n c => n * base + digitValue c) 0

def quotedText (text : List Char) : String := String.ofList (Text.Quoted.quoted text)

def integerOfDigits (base : Nat) (digits : List Char) : Except Fault Nat :=
  if digits.isEmpty || digits.any (base ≤ digitValue ·) then
    .error (.range
      ("invalid literal for int() with base " ++ toString base ++ ": " ++ quotedText digits))
  else .ok (valueOfDigits base digits)

def integerValue (text : List Char) : Except Fault Int := do
  let text := text.filter (· != '_')
  let digits := withoutSign text
  let size ← match digits with
    | ['0'] => pure 0
    | '0' :: 'b' :: digits => integerOfDigits 2 digits
    | '0' :: 'x' :: digits => integerOfDigits 16 digits
    | '0' :: _ => integerOfDigits 8 digits
    | _ =>
      (Text.splitAt ':' digits).foldlM (fun n part => do return n * 60 + (← integerOfDigits 10 part)) 0
  return if text.head? == some '-' then -size else size

def isNought (text : List Char) : Bool :=
  let digits := text.takeWhile fun c => c != 'e' && c != 'E'
  digits.any Char.isDigit && digits.all fun c => !c.isDigit || c == '0'

def decimalValue (text : List Char) : Except Fault Data :=
  if isDecimalText text || isIntegerText text then
    .ok (.decimal (String.ofList text) (isNought text))
  else .error (.range ("could not convert string to float: " ++ quotedText text))

def isLeap (year : Nat) : Bool := year % 4 == 0 && (year % 100 != 0 || year % 400 == 0)

def daysInMonth (year month : Nat) : Nat :=
  if month == 2 then if isLeap year then 29 else 28
  else if [4, 6, 9, 11].contains month then 30 else 31

def Timestamp.mistake? (stamp : Timestamp) : Option String :=
  if stamp.year == 0 then some "year 0 is out of range"
  else if stamp.month == 0 || 12 < stamp.month then some "month must be in 1..12"
  else if stamp.day == 0 || daysInMonth stamp.year stamp.month < stamp.day then
    some "day is out of range for month"
  else match stamp.time with
    | some (hour, minute, second) =>
      if 23 < hour then some "hour must be in 0..23"
      else if 59 < minute then some "minute must be in 0..59"
      else if 59 < second then some "second must be in 0..59"
      else none
    | none => none

def timestampValue (text : List Char) : Except Fault Data :=
  match timestamp? text with
  | none => .error .malformed
  | some stamp =>
    match stamp.mistake? with
    | some mistake => .error (.range mistake)
    | none =>
      let type := if stamp.time.isSome then "datetime.datetime" else "datetime.date"
      .ok (.other type (String.ofList text))

def truthValue (text : List Char) : Except Fault Data :=
  match truths.lookup (String.ofList (text.map Char.toLower)) with
  | some truth => .ok (.bool truth)
  | none => .error .noTruth

def ScalarType.valueOf (text : List Char) : ScalarType → Except Fault Data
  | null => .ok .null
  | bool => truthValue text
  | integer => .integer <$> integerValue text
  | decimal => decimalValue text
  | timestamp => timestampValue text
  | .text => .ok (.string (String.ofList text))
  | merge => .error .malformed
  | value => .error .malformed

def ScalarType.ofName? (name : String) : Option ScalarType :=
  match name with
  | "null" => some null
  | "bool" => some bool
  | "int" => some integer
  | "float" => some decimal
  | "timestamp" => some timestamp
  | "str" => some .text
  | "merge" => some merge
  | "value" => some value
  | _ => none

end Phrasebook.Data.Yaml
