import Phrasebook.Script.Expression

namespace Phrasebook.Script

open Syntax Reading

def decorator (g : Rules) : Reading Unit :=
  Parse.branch "decorator" do
    operator "@"
    if (← nextChar?) == some '(' then parenthesized g
    else
      identifier
      Parse.many do
        if ← isNext "." then
          Parse.around "member_expression" "object" do operator "."; memberAccess
          pure true
        else pure false
      if (← types) && (← nextChar?) == some '<' then
        Parse.around "call_expression" "function" do
          Parse.role "type_arguments" (typeArguments g)
          Parse.role "arguments" (arguments g)
      else if (← nextChar?) == some '(' then
        Parse.around "call_expression" "function" (Parse.role "arguments" (arguments g))

def heritage (g : Rules) : Reading Unit :=
  Parse.branch "class_heritage" do
    if ← isNextWord "extends" then
      keyword "extends"
      inBrackets (postfixOperand g)
      if (← types) && (← nextChar?) == some '<' then typeArguments g
    if (← types) && (← isNextWord "implements") then
      Parse.branch "implements_clause" do
        keyword "implements"
        inBrackets (commaSeparated '\x7b' (g .type))

def memberModifiers (types : Bool) : List String :=
  if types then ["static", "declare", "public", "private", "protected", "override", "abstract",
    "readonly", "accessor"]
  else ["static"]

def modifiers : Reading Unit :=
  Parse.many do
    let name ← nextWord
    if (memberModifiers (← types)).contains name &&
        ((← modifiesProperty name) || (← modifiesNext name ['*'])) then
      keyword name
      pure true
    else pure false

def indexMember (g : Rules) : Reading Unit :=
  Parse.branch "index_signature" do
    modifiers
    char '['
    word "identifier"
    operator ":"
    inBrackets (g .type)
    char ']'
    optionalAscription g

/-- Everything of a method after its name; a method that is only declared has no body. -/
def methodSignatureOrBody (g : Rules) : Reading Unit := do
  signature g
  if (← nextChar?) == some '\x7b' then functionBody g
  else do
    Parse.require (← types)
    semicolon false

def fieldRest (g : Rules) : Reading Unit := do
  let _ ← Parse.attempt do
    Parse.require (← types)
    operator "?" <|> operator "!"
  optionalAscription g
  if ← isNext "=" then
    operator "="
    Parse.role "value" (g .expression)
    semicolon true
  else semicolon false

def classMember (g : Rules) : Reading Unit := do
  let staticBlock ← Parse.test do
    keyword "static"
    return (← nextChar?) == some '\x7b'
  if ← isNext ";" then operator ";"
  else if staticBlock then
    Parse.branch "class_static_block" do keyword "static"; functionBody g
  else if ← guess do Parse.require (← types); indexMember g then semicolon false
  else
    let isMethod ← Parse.test do
      strictly do
        decoratorsBefore g
        modifiers
        methodModifiers
        propertyName g
        if (← types) && (← isNext "?") then operator "?"
        let next ← nextChar?
        pure (next == some '(' || ((← types) && next == some '<'))
    Parse.branch (if isMethod then "method_definition" else "field_definition") do
      decoratorsBefore g
      modifiers
      if isMethod then
        methodModifiers
        Parse.role "name" (propertyName g)
        if (← types) && (← isNext "?") then operator "?"
        methodSignatureOrBody g
      else
        Parse.role "property" (propertyName g)
        fieldRest g

def classBody (g : Rules) : Reading Unit :=
  Parse.branch "class_body" do
    char '\x7b'
    inStatements <| Parse.many do
      let next ← nextChar?
      if next == some '\x7d' || next == none then pure false
      else do classMember g; pure true
    close '\x7d'

/-- A class after its decorators and modifiers; the name may be left out in an expression. -/
def classRest (g : Rules) : Reading Unit := do
  keyword "class"
  let name ← nextWord
  if name != "" && name != "extends" && name != "implements" then Parse.role "name" identifier
  optionalTypeParameters g
  if (← isNextWord "extends") || (← isNextWord "implements") then heritage g
  Parse.role "body" (classBody g)

def classOperand (g : Rules) : Reading Unit :=
  Parse.branch "class" do
    decoratorsBefore g
    classRest g

end Phrasebook.Script
