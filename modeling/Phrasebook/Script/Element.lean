import Phrasebook.Script.Expression

namespace Phrasebook.Script

open Syntax Reading

def elementNameLength (text : List Char) : Nat :=
  if wordLength text = 0 then 0 else countWhile (fun c => isWordChar c || c == '-') text

def elementWord (kind : String) : Reading Unit := do
  let n := elementNameLength (← ahead)
  if n = 0 then Parse.fail else token kind true n

def elementName : Reading Unit := do
  elementWord "identifier"
  if ← isNext ":" then
    Parse.around "jsx_namespace_name" "" do operator ":"; elementWord "identifier"
  else
    Parse.many do
      if ← isNext "." then
        Parse.around "member_expression" "object" do
          operator "."
          Parse.role "property" (elementWord "property_identifier")
        pure true
      else pure false

def embedded (g : Rules) : Reading Unit :=
  Parse.branch "jsx_expression" do
    char '\x7b'
    inBrackets do
      if (← nextChar?) == some '\x7d' then pure ()
      else if ← isNext "..." then spread g
      else g .sequence
    char '\x7d'

def attributeString : Reading Unit := do
  match ← ahead with
  | quote :: text =>
    let n := countWhile (· != quote) text
    if (text.drop n).isEmpty then Parse.fail else token "string" true (n + 2)
  | [] => Parse.fail

def elementAttribute (g : Rules) : Reading Unit := do
  if (← nextChar?) == some '\x7b' then embedded g
  else
    Parse.branch "jsx_attribute" do
      elementWord "property_identifier"
      if ← isNext ":" then
        Parse.around "jsx_namespace_name" "" do operator ":"; elementWord "property_identifier"
      if (← nextChar?) == some '=' then
        char '='
        match ← nextChar? with
        | some '"' => attributeString
        | some '\'' => attributeString
        | some '\x7b' => embedded g
        | _ => g .element

def openingTag (g : Rules) : Reading Unit := do
  Parse.branch "jsx_opening_element" do
    char '<'
    if (← nextChar?) == some '>' then char '>'
    else
      Parse.role "name" elementName
      if (← types) && (← nextChar?) == some '<' then typeArguments g
      Parse.many do
        let next ← nextChar?
        if next == some '>' || next == some '/' || next == none then pure false
        else do elementAttribute g; pure true
      if (← nextChar?) == some '/' then do char '/'; char '>' else char '>'

def closesItself : Reading Bool := fun _ c =>
  .read ((c.nodes.head?.map (·.children.any (·.kind == "/"))).getD false) c

def referenceLength? : List Char → Option Nat
  | '&' :: text =>
    let (lead, digits, most) := match text with
      | '#' :: c :: rest =>
        if c == 'x' || c == 'X' then (2, countWhile isHexDigit rest, 6)
        else (1, countWhile Char.isDigit (c :: rest), 5)
      | _ => (0, countWhile Char.isAlpha text, 30)
    if 0 < digits && digits ≤ most && (text.drop (lead + digits)).head? == some ';' then
      some (lead + digits + 2)
    else none
  | _ => none

def closingTag : Reading Unit :=
  Parse.branch "jsx_closing_element" do
    char '<'
    char '/'
    if (← nextChar?) != some '>' then Parse.role "name" elementName
    char '>'

def elementChildren (g : Rules) : Reading Unit :=
  Parse.many do
    let text ← Parse.rest
    match text with
    | [] => Parse.fail
    | '<' :: after =>
      if (afterTrivia after).head? == some '/' then pure false
      else do g .element; pure true
    | '\x7b' :: _ => do embedded g; pure true
    | '&' :: _ =>
      match referenceLength? text with
      | some n => do Parse.leaf "html_character_reference" true n; pure true
      | none => Parse.fail
    | c :: _ =>
      if c == '>' || c == '\x7d' then Parse.fail
      else
        Parse.leaf "jsx_text" true (countWhile (fun c => !"<>\x7b\x7d&".toList.contains c) text)
        pure true

def element (g : Rules) : Reading Unit := do
  Parse.require (← Parse.settings).dialect.elements
  inBrackets (openingTag g)
  if ← closesItself then
    Parse.asKind "jsx_self_closing_element" (pure ())
  else
    Parse.around "jsx_element" "open_tag" do
      inBrackets (elementChildren g)
      Parse.role "close_tag" closingTag

end Phrasebook.Script
