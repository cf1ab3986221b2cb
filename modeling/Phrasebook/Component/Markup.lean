import Phrasebook.Script.Lexical
import Phrasebook.Syntax.Parse
import Phrasebook.Text.Blank

namespace Phrasebook.Component

open Syntax Text
open Script (countWhile)

abbrev Reading := Parse Unit

/-- What tells the markup of one component language from another's. -/
structure Markup where
  /-- Reads the code that begins here in the text between tags, and says whether there was any. -/
  code : Reading Bool
  tagAttribute : Reading Unit
  /-- The raw text of an element begins after the white space at its start. -/
  rawTextIsTrimmed : Bool

namespace Markup

def skipBlanks : Reading Unit := do
  Parse.drop (countWhile isBlank (← Parse.rest))

def leafWhile (kind : String) (p : Char → Bool) : Reading Unit := do
  let n := countWhile p (← Parse.rest)
  if n != 0 then Parse.leaf kind true n

def token (word : String) : Reading Unit :=
  Parse.leaf word false word.length

def lengthThrough (word : List Char) : List Char → Nat
  | [] => 0
  | c :: text => if word.isPrefixOf (c :: text) then word.length else lengthThrough word text + 1

def isNameChar (c : Char) : Bool := c.isAlphanum || c == '-' || c == ':' || c == '.'

def nameAfter (n : Nat) (text : List Char) : List Char :=
  ((text.drop n).takeWhile isNameChar).map Char.toLower

def rawLength (name : List Char) : List Char → Nat
  | [] => 0
  | c :: text =>
    if ['<', '/'].isPrefixOf (c :: text) &&
        ((text.drop 1).take name.length).map Char.toLower == name then 0
    else rawLength name text + 1

def endsValue (c : Char) : Bool := isBlank c || "<>\"'=".toList.contains c

def quotedValue : Reading Bool := do
  match ← Parse.rest with
  | quote :: text =>
    let n := countWhile (· != quote) text
    if (quote == '"' || quote == '\'') && n < text.length then
      Parse.branch "quoted_attribute_value" do
        token quote.toString
        leafWhile "attribute_value" (· != quote)
        token quote.toString
      return true
    else return false
  | [] => return false

def value (unquoted : Reading Unit) : Reading Unit := do
  match (← Parse.rest).dropWhile isBlank with
  | '=' :: _ => do
    skipBlanks
    token "="
    skipBlanks
    if ← quotedValue then pure () else unquoted
  | _ => pure ()

def endsTag : List Char → Bool
  | [] => true
  | '<' :: _ => true
  | '>' :: _ => true
  | '/' :: '>' :: _ => true
  | _ => false

def attributes (markup : Markup) : Reading Unit :=
  Parse.many do
    skipBlanks
    if endsTag (← Parse.rest) then return false
    else
      markup.tagAttribute
      return true

def tagEnd : Reading Unit := do
  match ← Parse.rest with
  | '>' :: _ => token ">"
  | '/' :: '>' :: _ => token "/>"
  | _ => pure ()

def startTag (markup : Markup) : Reading Unit :=
  Parse.branch "start_tag" do
    token "<"
    leafWhile "tag_name" isNameChar
    markup.attributes
    tagEnd

def endTag : Reading Unit :=
  Parse.branch "end_tag" do
    token "</"
    skipBlanks
    leafWhile "tag_name" isNameChar
    skipBlanks
    tagEnd

def isOpen : Reading Bool := fun _ c =>
  let last := c.nodes.head?.bind (·.children.getLast?)
  .read (last.any (·.kind == ">")) c

def rawElement (markup : Markup) (kind : String) (name : List Char) : Reading Unit :=
  Parse.branch kind do
    markup.startTag
    if ← isOpen then
      if markup.rawTextIsTrimmed then skipBlanks
      let n := rawLength name (← Parse.rest)
      if n != 0 then Parse.leaf "raw_text" true n
      if (← Parse.rest).isEmpty then pure () else endTag

def element (markup : Markup) : Reading Unit := do
  let name := nameAfter 1 (← Parse.rest)
  if name == "script".toList then markup.rawElement "script_element" name
  else if name == "style".toList then markup.rawElement "style_element" name
  else markup.startTag

def text : Reading Unit := do
  let rest := (← Parse.rest).drop 1
  Parse.leaf "text" true (1 + countWhile (fun c => c != '<' && c != '\x7b') rest)

def content (markup : Markup) : Reading Bool := do
  let rest ← Parse.rest
  match rest with
  | [] => return false
  | '<' :: '!' :: '-' :: '-' :: _ =>
    Parse.leaf "comment" true (lengthThrough "-->".toList rest)
    return true
  | '<' :: '!' :: _ =>
    Parse.leaf "doctype" true (lengthThrough ">".toList rest)
    return true
  | '<' :: '/' :: _ =>
    endTag
    return true
  | '<' :: c :: _ =>
    if c.isAlpha then markup.element else text
    return true
  | _ =>
    if ← markup.code then return true
    else
      text
      return true

def document (markup : Markup) (source : List UInt8) : Node :=
  match Parse.many markup.content () ⟨decodeLossy source, 0, []⟩ with
  | .read _ cursor => Node.branch "document" 0 cursor.nodes.reverse
  | .stuck cursor => Node.branch Node.errorKind 0 cursor.nodes.reverse

end Markup

end Phrasebook.Component
