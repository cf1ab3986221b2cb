import Phrasebook.Text.Blank
import Phrasebook.Text.Word

namespace Phrasebook.Convention

open Text

inductive Wrapping where
  | bare
  | braces
  /-- The call is all there is in two pairs of braces, white space aside. -/
  | doubleBraces
  | method (owner : List Char)
  deriving DecidableEq, Repr

inductive Pattern where
  | call (wrapping : Wrapping) (name : List Char) (quote : Char)
  | block (quote : Char)
  | directive (outer inner : Char)
  deriving DecidableEq, Repr

/-- The body of a literal up to the quote that closes it, and the text after that quote. A backslash
    takes the next character with it, but cannot take a line feed. -/
def literalBody? (quote : Char) : List Char → Option (List Char × List Char)
  | [] => none
  | ['\\'] => none
  | '\\' :: c :: text =>
    if c == '\n' then none
    else (literalBody? quote text).map fun (body, rest) => ('\\' :: c :: body, rest)
  | c :: text =>
    if c == quote then some ([], text)
    else (literalBody? quote text).map fun (body, rest) => (c :: body, rest)

def literal? (quote : Char) : List Char → Option (List Char × List Char)
  | [] => none
  | c :: text => if c == quote then literalBody? quote text else none

def afterBlanks? {α : Type} (read? : List Char → Option α) : List Char → Option α
  | [] => read? []
  | c :: text =>
    if isBlank c then
      match afterBlanks? read? text with
      | some a => some a
      | none => read? (c :: text)
    else read? (c :: text)

def afterParenthesis? {α : Type} (read? : List Char → Option α) : List Char → Option α
  | [] => none
  | c :: text =>
    if c == ')' then
      match read? text with
      | some a => some a
      | none => afterParenthesis? read? text
    else afterParenthesis? read? text

def startsWord (before : Option Char) : Bool := before.all fun c => !isWord c

namespace Wrapping

def close? : Wrapping → List Char → Option (List Char)
  | bare, text => some text
  | braces, text => ['\x7d'].isPrefixOf? text
  | doubleBraces, text => ['\x7d', '\x7d'].isPrefixOf? (text.dropWhile isBlank)
  | method _, text => some text

end Wrapping

def callEnd? (wrapping : Wrapping) (text : List Char) : Option (List Char) :=
  match text.dropWhile isBlank with
  | ')' :: rest => wrapping.close? rest
  | ',' :: rest => afterParenthesis? wrapping.close? rest
  | _ => none

def call? (wrapping : Wrapping) (name : List Char) (quote : Char) (text : List Char) :
    Option (List Char × List Char) := do
  let text ← name.isPrefixOf? text
  let text ← ['('].isPrefixOf? text
  let (body, text) ← literal? quote (text.dropWhile isBlank)
  let rest ← callEnd? wrapping text
  return (body, rest)

def nameMayStart (before : Option Char) (name : List Char) : Bool :=
  match name with
  | [] => true
  | c :: _ => !isWord c || startsWord before

namespace Pattern

/-- What a pattern matches at the start of a text, given the character before it: the body of the
    literal, and the text after the match. -/
def match? (before : Option Char) (text : List Char) : Pattern → Option (List Char × List Char)
  | call .bare name quote =>
    if nameMayStart before name then call? .bare name quote text else none
  | call .braces name quote => do
    let text ← ['\x7b'].isPrefixOf? text
    call? .braces name quote text
  | call .doubleBraces name quote => do
    let text ← ['\x7b', '\x7b'].isPrefixOf? text
    afterBlanks? (call? .doubleBraces name quote) text
  | call (.method owner) name quote =>
    if startsWord before then do
      let text ← owner.isPrefixOf? text
      let text ← ['.'].isPrefixOf? text
      call? (.method owner) name quote text
    else none
  | block quote => do
    let text ← ['\x7b', '#', 't'].isPrefixOf? text
    let (body, text) ← if text.head?.all (!isBlank ·) then none
      else literal? quote (text.dropWhile isBlank)
    let rest ← ['\x7d'].isPrefixOf? text
    return (body, rest)
  | directive outer inner => do
    let text ← ['v', '-', 't', '=', outer].isPrefixOf? text
    let (body, text) ← literal? inner text
    let rest ← [outer].isPrefixOf? text
    return (body, rest)

end Pattern

/-- Where a pattern matched, as indexes of characters, and the body of the literal there. -/
structure Match where
  start : Nat
  stop : Nat
  body : List Char
  deriving DecidableEq, Repr

namespace Pattern

/-- The matches in the rest of a text. The match found last covers the next `covered` characters. -/
def matchesFrom (pattern : Pattern) :
    (before : Option Char) → (index covered : Nat) → List Char → List Match
  | _, _, _, [] => []
  | _, index, covered + 1, c :: text => matchesFrom pattern (some c) (index + 1) covered text
  | before, index, 0, c :: text =>
    match pattern.match? before (c :: text) with
    | some (body, rest) =>
      let length := (c :: text).length - rest.length
      ⟨index, index + length, body⟩ ::
        matchesFrom pattern (some c) (index + 1) (length - 1) text
    | none => matchesFrom pattern (some c) (index + 1) 0 text

def matchesIn (pattern : Pattern) (text : List Char) : List Match :=
  pattern.matchesFrom none 0 0 text

end Pattern

end Phrasebook.Convention
