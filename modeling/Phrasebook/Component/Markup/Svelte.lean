import Phrasebook.Component.Markup

namespace Phrasebook.Component.Markup.Svelte

open Syntax Text
open Script (countWhile)

inductive Surrounding where
  | braces
  | quotes (quote : Char)
  | template
  | line
  | block
  deriving DecidableEq, Repr

/-- What surrounds the text after a character, in place of what surrounds the character; and how many
    of the characters after it belong to it. -/
def Surrounding.step (c : Char) (next : Option Char) : Surrounding → List Surrounding × Nat
  | braces =>
    match c with
    | '\x7b' => ([braces, braces], 0)
    | '\x7d' => ([], 0)
    | '\x60' => ([template, braces], 0)
    | '"' => ([quotes '"', braces], 0)
    | '\'' => ([quotes '\'', braces], 0)
    | '/' =>
      if next == some '/' then ([line, braces], 1)
      else if next == some '*' then ([block, braces], 1)
      else ([braces], 0)
    | _ => ([braces], 0)
  | quotes quote =>
    if c == '\\' then ([quotes quote], 1) else (if c == quote then [] else [quotes quote], 0)
  | template =>
    if c == '\\' then ([template], 1)
    else if c == '$' && next == some '\x7b' then ([braces, template], 1)
    else (if c == '\x60' then [] else [template], 0)
  | line => (if c == '\n' then [] else [line], 0)
  | block => if c == '*' && next == some '/' then ([], 1) else ([block], 0)

/-- Length of the code up to the character that closes the outermost of what surrounds it. The first
    argument counts the characters that belong to an earlier one. -/
def codeLength? : Nat → List Surrounding → List Char → Option Nat
  | _, _, [] => none
  | n + 1, surroundings, _ :: text => (codeLength? n surroundings text).map (· + 1)
  | 0, [], _ :: _ => none
  | 0, innermost :: outer, c :: text =>
    let (inner, n) := innermost.step c text.head?
    if inner.isEmpty && outer.isEmpty then some 0
    else (codeLength? n (inner ++ outer) text).map (· + 1)

/-- Length of what comes before the first of some words, where it stands between white space. -/
def lengthBefore? (words : List (List Char)) : List Char → Option Nat
  | [] => none
  | c :: text =>
    if isBlank c && words.any fun word =>
        word.isPrefixOf text && (text.drop word.length).head?.any isBlank then some 0
    else (lengthBefore? words text).map (· + 1)

def partings : String → List (List Char)
  | "each" => ["as".toList]
  | "await" => ["then".toList, "catch".toList]
  | _ => []

/-- Reads the code ahead, of the given length with the white space before it, as a node. -/
def code (length : Nat) : Reading Unit := do
  let blanks := countWhile isBlank ((← Parse.rest).take length)
  Parse.drop blanks
  if blanks < length then Parse.leaf "raw_text_expr" true (length - blanks)

def isSigil (c : Char) : Bool := c == '#' || c == ':' || c == '@' || c == '/'

def calleeLength (text : List Char) : Nat :=
  countWhile (fun c => c != '(' && !isBlank c) text

def arguments (keyword : String) (length : Nat) : Reading Unit := do
  let ahead := (← Parse.rest).take length
  if keyword == "snippet" || keyword == "render" then
    let blanks := countWhile isBlank ahead
    let name := min (calleeLength (ahead.drop blanks)) (length - blanks)
    Parse.drop blanks
    Parse.leaf "snippet_name" true name
    let rest := ahead.drop (blanks + name)
    if rest.head? == some '(' then
      token "("
      let inside := countWhile (· != ')') (rest.drop 1)
      code inside
      Parse.drop (rest.length - 1 - inside)
    else code rest.length
  else match lengthBefore? (partings keyword) ahead with
    | none => code length
    | some first =>
      let rest := ahead.drop first
      let blanks := countWhile isBlank rest
      let word := countWhile (!isBlank ·) (rest.drop blanks)
      code first
      Parse.drop blanks
      Parse.leaf "special_block_keyword" true word
      code (rest.length - blanks - word)

def tag (length : Nat) : Reading Unit := do
  let inside := (← Parse.rest).take length
  let blanks := countWhile isBlank inside
  match inside.drop blanks with
  | sigil :: rest =>
    let letters := rest.takeWhile Char.isAlpha
    if isSigil sigil && !letters.isEmpty then
      Parse.drop blanks
      token sigil.toString
      Parse.leaf "special_block_keyword" true letters.length
      arguments (String.ofList letters) (rest.length - letters.length)
    else code length
  | [] => code length

def braces : Reading Bool := do
  match ← Parse.rest with
  | '\x7b' :: text =>
    match codeLength? 0 [.braces] text with
    | some length =>
      Parse.branch "expression" do
        token "\x7b"
        tag length
        token "\x7d"
      return true
    | none => return false
  | _ => return false

def isAttributeNameChar (c : Char) : Bool := !(endsValue c || "\x7b\x7d/".toList.contains c)

/-- Reads a value without quotes, which may be put together from code and other characters. -/
def unquoted : Reading Unit :=
  Parse.many do
    if ← braces then return true
    else
      let n := countWhile isAttributeNameChar (← Parse.rest)
      if n != 0 then Parse.leaf "attribute_value" true n
      return n != 0

def tagAttribute : Reading Unit :=
  Parse.branch "attribute" do
    if ← braces then pure ()
    else
      let n := countWhile isAttributeNameChar (← Parse.rest)
      if n == 0 then Parse.leaf Node.errorKind true 1
      else
        Parse.leaf "attribute_name" true n
        value unquoted

end Svelte

def svelte : Markup := ⟨Svelte.braces, Svelte.tagAttribute, true⟩

end Phrasebook.Component.Markup
