import Phrasebook.Component.Markup

namespace Phrasebook.Component.Markup.Vue

open Syntax Text
open Script (countWhile)

def codeLength? : List Char → Option Nat
  | '\x7d' :: '\x7d' :: _ => some 0
  | _ :: text => (codeLength? text).map (· + 1)
  | [] => none

def interpolation : Reading Bool := do
  match ← Parse.rest with
  | '\x7b' :: '\x7b' :: text =>
    match codeLength? text with
    | some length =>
      Parse.branch "interpolation" do
        token "\x7b\x7b"
        if length != 0 then Parse.leaf "raw_text" true length
        token "\x7d\x7d"
      return true
    | none => return false
  | _ => return false

def isNameChar (c : Char) : Bool := !(endsValue c || c == '/')

def isDirectiveChar (c : Char) : Bool := isNameChar c && c != ':' && c != '.'

def isSign (c : Char) : Bool := c == ':' || c == '@' || c == '#'

def directiveLength : List Char → Nat
  | 'v' :: '-' :: text =>
    match countWhile isDirectiveChar text with
    | 0 => 0
    | n + 1 => n + 3
  | _ => 0

def unquoted : Reading Unit := leafWhile "attribute_value" (!endsValue ·)

def directiveTail : Reading Unit := do
  leafWhile "directive_value" isNameChar
  value unquoted

def tagAttribute : Reading Unit := do
  let ahead ← Parse.rest
  let directive := directiveLength ahead
  if directive != 0 then
    Parse.branch "directive_attribute" do
      Parse.leaf "directive_name" true directive
      directiveTail
  else match ahead with
    | [] => pure ()
    | c :: _ =>
      if isSign c then
        Parse.branch "directive_attribute" do
          token c.toString
          directiveTail
      else if isNameChar c then
        Parse.branch "attribute" do
          leafWhile "attribute_name" isNameChar
          value unquoted
      else Parse.leaf Node.errorKind true 1

end Vue

def vue : Markup := ⟨Vue.interpolation, Vue.tagAttribute, false⟩

end Phrasebook.Component.Markup
