namespace Phrasebook.Script

def isLineBreak (c : Char) : Bool :=
  c == '\n' || c == '\u2028' || c == '\u2029'

def isSpace (c : Char) : Bool :=
  let n := c.toNat
  (9 ≤ n && n ≤ 13) || n == 0x20 || n == 0xA0 || n == 0x1680 || (0x2000 ≤ n && n ≤ 0x200B) ||
    n == 0x2028 || n == 0x2029 || n == 0x202F || n == 0x205F || n == 0x2060 || n == 0x3000 ||
    n == 0xFEFF

/-- Characters that may continue an identifier: all but controls, spaces and punctuation. -/
def isWordChar (c : Char) : Bool :=
  0x20 < c.toNat && !isSpace c && !":;\x60\"'@#.,|^&<=>+-*/\\%?!~()[]\x7b\x7d".toList.contains c

def isHexDigit (c : Char) : Bool :=
  c.isDigit || ('a' ≤ c && c ≤ 'f') || ('A' ≤ c && c ≤ 'F')

def isOctalDigit (c : Char) : Bool := '0' ≤ c && c ≤ '7'

def countWhile (p : Char → Bool) (text : List Char) : Nat :=
  (text.takeWhile p).length

def hexDigits? (n : Nat) (text : List Char) : Option Nat :=
  if countWhile isHexDigit (text.take n) = n then some n else none

def bracedDigits? : List Char → Option Nat
  | '\x7b' :: text =>
    let n := countWhile isHexDigit text
    if 0 < n && (text.drop n).head? == some '\x7d' then some (n + 2) else none
  | _ => none

def unicodeEscapeLength : List Char → Nat
  | '\\' :: 'u' :: text => (((bracedDigits? text).or (hexDigits? 4 text)).map (· + 2)).getD 0
  | _ => 0

/-- Length of the characters that continue an identifier; the first argument counts those already
    known to belong to an escape. -/
def wordTailLength : Nat → List Char → Nat
  | _, [] => 0
  | n + 1, _ :: text => 1 + wordTailLength n text
  | 0, c :: text =>
    if isWordChar c then 1 + wordTailLength 0 text
    else match unicodeEscapeLength (c :: text) with
      | 0 => 0
      | n + 1 => 1 + wordTailLength n text

def wordLength (text : List Char) : Nat :=
  match text with
  | [] => 0
  | c :: _ => if c.isDigit then 0 else wordTailLength 0 text

def blockEnd? : List Char → Option Nat
  | '*' :: '/' :: _ => some 2
  | _ :: text => (blockEnd? text).map (· + 1)
  | [] => none

/-- Length of the comment ahead, zero if there is none. A block comment must be closed. -/
def commentLength : List Char → Nat
  | '/' :: '/' :: text => 2 + countWhile (fun c => !(isLineBreak c || c == '\r')) text
  | '/' :: '*' :: text => ((blockEnd? text).map (· + 2)).getD 0
  | _ => 0

/-- Length of the rest of the line if a comment in the style of markup, or the end of one, begins
    here. -/
def markupCommentLength (text : List Char) : Nat :=
  if "<!--".toList.isPrefixOf text || "-->".toList.isPrefixOf text then
    countWhile (!isLineBreak ·) text
  else 0

/-- Length of the spaces and comments ahead; the first argument counts the characters already known
    to belong to a comment. -/
def triviaLengthFrom : Nat → List Char → Nat
  | _, [] => 0
  | n + 1, _ :: text => 1 + triviaLengthFrom n text
  | 0, c :: text =>
    if isSpace c then 1 + triviaLengthFrom 0 text
    else match commentLength (c :: text) with
      | 0 => 0
      | n + 1 => 1 + triviaLengthFrom n text

def triviaLength (text : List Char) : Nat := triviaLengthFrom 0 text

def afterTrivia (text : List Char) : List Char := text.drop (triviaLength text)

def escapedLength : List Char → Option Nat
  | 'x' :: text => (hexDigits? 2 text).map (· + 1)
  | 'u' :: text => ((bracedDigits? text).or (hexDigits? 4 text)).map (· + 1)
  | '\r' :: '\n' :: _ => some 2
  | c :: text =>
    if isOctalDigit c then some (1 + countWhile isOctalDigit (text.take 2)) else some 1
  | [] => none

/-- Length of the rest of a string up to and including its closing quote; the first argument counts
    the characters already known to belong to an escape. -/
def stringEnd? (acrossLines : Bool) (quote : Char) : Nat → List Char → Option Nat
  | _, [] => none
  | n + 1, _ :: text => (stringEnd? acrossLines quote n text).map (· + 1)
  | 0, c :: text =>
    if c == quote then some 1
    else if c == '\\' then
      match escapedLength text with
      | none => none
      | some n => (stringEnd? acrossLines quote n text).map (· + 1)
    else if (c == '\n' || c == '\r') && !acrossLines then none
    else (stringEnd? acrossLines quote 0 text).map (· + 1)

def stringLength? (acrossLines : Bool) : List Char → Option Nat
  | c :: text =>
    if c == '"' || c == '\'' then (stringEnd? acrossLines c 0 text).map (· + 1) else none
  | [] => none

def digitsLength (text : List Char) : Nat :=
  countWhile (fun c => c.isDigit || c == '_') text

def exponentLength : List Char → Nat
  | c :: text =>
    if c == 'e' || c == 'E' then
      let sign := if text.head? == some '+' || text.head? == some '-' then 1 else 0
      let n := digitsLength (text.drop sign)
      if 0 < n then 1 + sign + n else 0
    else 0
  | [] => 0

def fractionLength : List Char → Nat
  | '.' :: text => 1 + digitsLength text
  | _ => 0

def basedLength (p : Char → Bool) (text : List Char) : Nat :=
  let n := countWhile (fun c => p c || c == '_') text
  if 0 < n then 2 + n else 0

def bigSuffix (text : List Char) : Nat := if text.head? == some 'n' then 1 else 0

def numberLength (text : List Char) : Nat :=
  let based := match text with
    | '0' :: c :: rest =>
      if c == 'x' || c == 'X' then basedLength isHexDigit rest
      else if c == 'o' || c == 'O' then basedLength isOctalDigit rest
      else if c == 'b' || c == 'B' then basedLength (fun d => d == '0' || d == '1') rest
      else 0
    | _ => 0
  if 0 < based then based + bigSuffix (text.drop based)
  else
    let whole := if (text.head?.map Char.isDigit).getD false then digitsLength text else 0
    let fraction := fractionLength (text.drop whole)
    if whole + fraction = 0 || (whole = 0 && fraction = 1) then 0
    else
      let n := whole + fraction
      let n := n + exponentLength (text.drop n)
      if fraction = 0 then n + bigSuffix (text.drop n) else n

/-- Length of a regular expression's body, up to and excluding its closing slash; the flag says
    whether a character class is open. -/
def regexBody? : Bool → List Char → Option Nat
  | _, [] => none
  | inClass, '\\' :: c :: text =>
    if isLineBreak c then none else (regexBody? inClass text).map (· + 2)
  | inClass, c :: text =>
    if isLineBreak c then none
    else if c == '/' && !inClass then some 0
    else (regexBody? (c == '[' || (inClass && c != ']')) text).map (· + 1)

def regexLength? : List Char → Option Nat
  | '/' :: text => do
    let n ← regexBody? false text
    if n = 0 then none
    else some (n + 2 + countWhile (fun c => 'a' ≤ c && c ≤ 'z') (text.drop (n + 1)))
  | [] => none
  | _ => none

def operators : List String :=
  [">>>=", "...", "===", "!==", "**=", "<<=", ">>=", ">>>", "&&=", "||=", "??=",
    "=>", "==", "!=", "<=", ">=", "&&", "||", "??", "?.", "++", "--", "+=", "-=", "*=", "/=", "%=",
    "&=", "|=", "^=", "<<", ">>", "**",
    "\x7b", "\x7d", "(", ")", "[", "]", ";", ",", "<", ">", "+", "-", "*", "/", "%", "&", "|", "^",
    "!", "~", "?", ":", "=", ".", "@", "#"]

def spelledOperators : List (List Char × String) := operators.map fun op => (op.toList, op)

/-- The longest operator ahead, empty if there is none. A question mark before a number is not part
    of `?.`. -/
def operatorAhead (text : List Char) : String :=
  match spelledOperators.find? (·.1.isPrefixOf text) with
  | some (_, "?.") => if ((text.drop 2).head?.map Char.isDigit).getD false then "?" else "?."
  | some (_, op) => op
  | none => ""

def reservedWords : List String :=
  ["break", "case", "catch", "class", "const", "continue", "debugger", "default", "delete", "do",
    "else", "export", "extends", "false", "finally", "for", "function", "if", "import", "in",
    "instanceof", "new", "null", "return", "super", "switch", "this", "throw", "true", "try",
    "typeof", "var", "void", "while", "with", "yield", "await"]

def isReserved (word : String) : Bool := reservedWords.contains word

def wordAhead (text : List Char) : String := String.ofList (text.take (wordLength text))

def opensStatement (types afterExpression : Bool) (text : List Char) : Bool :=
  let stops :=
    if types then "\x60,.;*%><=?^|&/:".toList else "\x60,:;*%><=[(?^|&/".toList
  match text with
  | [] => true
  | c :: text =>
    if stops.contains c then false
    else if types && (c == '(' || c == '[') then !afterExpression
    else if c == '.' then (text.head?.map Char.isDigit).getD false
    else if c == '+' || c == '-' then text.head? == some c
    else if c == '!' then text.head? != some '='
    else if c == 'i' then
      let word := wordAhead (c :: text)
      word != "in" && word != "instanceof"
    else true

/-- Whether the end of the line, of the block or of the text ahead closes the current statement. The
    first number counts the characters already known to belong to a comment. -/
def closesStatementFrom (types afterExpression : Bool) : Nat → List Char → Bool
  | _, [] => true
  | n + 1, _ :: text => closesStatementFrom types afterExpression n text
  | 0, c :: text =>
    if c == '/' then
      match commentLength (c :: text) with
      | 0 => false
      | n + 1 =>
        let next := (afterTrivia (c :: text)).head?
        let comment := (c :: text).take (n + 1)
        let endsLine := text.head? == some '/' || comment.any isLineBreak
        if !types && !afterExpression && endsLine && next != some ',' && next != some '=' then true
        else closesStatementFrom types afterExpression n text
    else if c == '\x7d' then
      if types && (text.dropWhile isSpace).head? == some ':' then afterExpression else true
    else if isLineBreak c then opensStatement types afterExpression (afterTrivia text)
    else if isSpace c then closesStatementFrom types afterExpression 0 text
    else false

def closesStatement (types afterExpression : Bool) (text : List Char) : Bool :=
  closesStatementFrom types afterExpression 0 text

end Phrasebook.Script
