import Phrasebook.Script.Token

namespace Phrasebook.Script

open Syntax Reading

/-- Where a line end closes the statement, an array or index bracket must stand on the same line. -/
def continuesType : Reading Bool := do
  return !(← atStatementEnd false)

def inAngles (item : Reading Unit) : Reading Unit := do
  char '<'
  Parse.require ((← nextChar?) != some '>')
  inBrackets (commaSeparated '>' item)
  char '>'

def typeArguments (g : Rules) : Reading Unit :=
  Parse.branch "type_arguments" (inAngles (g .type))

def typeParameter (g : Rules) : Reading Unit :=
  Parse.branch "type_parameter" do
    for modifier in ["const", "in", "out"] do
      let text ← ahead
      if wordAhead text == modifier &&
          wordLength (afterTrivia (text.drop modifier.length)) ≠ 0 &&
          wordAhead (afterTrivia (text.drop modifier.length)) != "extends" then
        keyword modifier
    Parse.role "name" (word "type_identifier")
    if ← isNextWord "extends" then
      Parse.branch "constraint" do keyword "extends"; g .type
    if ← isNext "=" then
      Parse.branch "default_type" do operator "="; g .type

def typeParameters (g : Rules) : Reading Unit :=
  Parse.branch "type_parameters" (inAngles (typeParameter g))

def optionalTypeParameters (g : Rules) : Reading Unit := do
  if (← types) && (← nextChar?) == some '<' then typeParameters g

def ascription (g : Rules) : Reading Unit :=
  Parse.branch "type_annotation" do char ':'; g .type

def optionalAscription (g : Rules) : Reading Unit := do
  if (← types) && (← isNext ":") then ascription g

def returnType (g : Rules) : Reading Unit := do
  if (← types) && (← isNext ":") then Parse.role "return_type" (ascription g)

def isAssignable (kind : String) : Bool :=
  ["identifier", "member_expression", "subscript_expression", "object_pattern", "array_pattern",
    "non_null_expression", "this", "parenthesized_expression"].contains kind

def decoratorsBefore (g : Rules) : Reading Unit :=
  Parse.many do
    if ← isNext "@" then do g .decorator; pure true else pure false

/-- Whether the word ahead is a modifier: another word, or a binding pattern, follows it. -/
def modifiesNext (word : String) (openers : List Char) : Reading Bool := do
  let text ← ahead
  let next := afterTrivia (text.drop word.length)
  return wordAhead text == word &&
    (wordLength next ≠ 0 || ((next.head?.map openers.contains).getD false))

def parameterModifiers : List String :=
  ["public", "private", "protected", "override", "readonly"]

def restPattern (g : Rules) : Reading Unit :=
  Parse.branch "rest_pattern" do operator "..."; g .bound

def parameter (g : Rules) : Reading Unit := do
  if ← types then
    Parse.branch "required_parameter" do
      if ← isNext "@" then decoratorsBefore g
      for modifier in parameterModifiers do
        if ← modifiesNext modifier ['\x7b', '['] then keyword modifier
      if ← isNext "..." then restPattern g else Parse.role "pattern" (g .bound)
      if ← isNext "?" then operator "?"
      optionalAscription g
      if ← isNext "=" then do
        operator "="
        Parse.role "value" (g .expression)
  else if ← isNext "..." then restPattern g
  else do
    g .bound
    if ← isNext "=" then
      Parse.around "assignment_pattern" "left" do
        operator "="
        Parse.role "right" (g .expression)

def parameters (g : Rules) : Reading Unit :=
  Parse.branch "formal_parameters" do
    char '('
    inBrackets (commaSeparated ')' (parameter g))
    close ')'

def signature (g : Rules) : Reading Unit := do
  optionalTypeParameters g
  Parse.role "parameters" (parameters g)
  returnType g

def functionType (g : Rules) : Reading Unit :=
  Parse.branch "function_type" do
    let _ ← Parse.attempt (keyword "abstract")
    let _ ← Parse.attempt (keyword "new")
    optionalTypeParameters g
    parameters g
    operator "=>"
    g .type

def privateName : Reading Unit := do
  let text ← ahead
  let n := wordLength (text.drop 1)
  if text.head? == some '#' && n ≠ 0 then token "private_property_identifier" true (n + 1)
  else Parse.fail

def propertyName (g : Rules) : Reading Unit :=
  Parse.firstOf [
    word "property_identifier",
    string,
    number,
    privateName,
    Parse.branch "computed_property_name" do
      char '['; inBrackets (g .expression); close ']']

def typeMember (g : Rules) : Reading Unit := do
  let index := Parse.branch "index_signature" do
    Parse.optional do
      let _ ← Parse.attempt (operator "-")
      let _ ← Parse.attempt (operator "+")
      keyword "readonly"
    char '['
    word "identifier"
    if ← isNextWord "in" then do
      keyword "in"; inBrackets (g .type)
      if ← isNextWord "as" then do keyword "as"; inBrackets (g .type)
    else do operator ":"; inBrackets (g .type)
    char ']'
    let _ ← Parse.attempt (operator "-")
    let _ ← Parse.attempt (operator "+")
    let _ ← Parse.attempt (operator "?")
    optionalAscription g
  let call := Parse.branch "call_signature" do
    if ← modifiesNext "new" ['(', '<'] then keyword "new"
    signature g
  let property := Parse.branch "property_signature" do
    for modifier in ["readonly", "get", "set"] do
      if ← modifiesNext modifier ['[', '"', '\'', '#'] then keyword modifier
    propertyName g
    let _ ← Parse.attempt (operator "?")
    let next ← nextChar?
    if next == some '(' || next == some '<' then signature g else optionalAscription g
  if ← guess index then pure ()
  else if ← guess call then pure ()
  else property

/-- Members up to the closing brace; a comma, a semicolon or a line end separates them. -/
def typeMembers (g : Rules) : Reading Unit := do
  char '\x7b'
  inStatements <| Parse.many do
    let next ← nextChar?
    if next == some '\x7d' || next == none then pure false
    else if next == some ';' then do char ';'; pure true
    else if next == some ',' then do char ','; pure true
    else
      typeMember g
      let next ← nextChar?
      if next == some ';' || next == some ',' then pure true
      else if ← atStatementEnd false then pure true
      else pure false
  close '\x7d'

def typeName (g : Rules) : Reading Unit := do
  word "type_identifier"
  Parse.many do
    if ← isNext "." then do operator "."; word "type_identifier"; pure true else pure false
  if (← nextChar?) == some '<' && (← continuesType) then Parse.optional (strictly (typeArguments g))

def templateType (g : Rules) : Reading Unit := do
  skipTrivia
  Parse.branch "template_literal_type" do
    Parse.leaf "\x60" false 1
    Parse.many do
      match ← Parse.rest with
      | '\x60' :: _ => do Parse.leaf "\x60" false 1; pure false
      | '$' :: '\x7b' :: _ => do
        Parse.leaf "$\x7b" false 2
        inBrackets (g .type)
        char '\x7d'
        pure true
      | '\\' :: text => do
        match escapedLength text with
        | some n => do Parse.drop (n + 1); pure true
        | none => Parse.fail
      | _ :: _ => do Parse.drop 1; pure true
      | [] => Parse.fail

def tupleMember (g : Rules) : Reading Unit := do
  if ← isNext "..." then operator "..."
  let labelled : Reading Unit := do
    word "identifier"
    let _ ← Parse.attempt (operator "?")
    operator ":"
  let _ ← guess labelled
  g .type
  let _ ← Parse.attempt (operator "?")

def importType (g : Rules) : Reading Unit :=
  Parse.branch "import_type" do
    keyword "import"
    char '('; string; close ')'
    Parse.many do
      if ← isNext "." then do operator "."; word "type_identifier"; pure true else pure false
    if (← nextChar?) == some '<' then typeArguments g

def inferredType (g : Rules) : Reading Unit := do
  word "type_identifier"
  if ← isNextWord "extends" then
    keyword "extends"
    g .operandType

def typeOperators : List String := ["keyof", "readonly", "unique", "infer"]

def isTypeStopper (name : String) : Bool :=
  name == "" || ["in", "instanceof", "return", "const", "var", "class", "function", "if", "else",
    "for", "while", "case", "default", "export"].contains name

def wordType (g : Rules) : Reading Unit := do
  let text ← ahead
  let name := wordAhead text
  let after := text.drop name.length
  let next := afterTrivia after
  if typeOperators.contains name then
    Parse.branch (name ++ "_type") do
      keyword name
      if name == "infer" then inferredType g else g .operandType
  else if name == "typeof" then
    Parse.branch "type_query" do
      keyword "typeof"
      if ← isNextWord "import" then importType g else typeName g
  else if name == "import" then importType g
  else if name == "asserts" && wordLength next ≠ 0 && wordAhead next != "is" then
    Parse.branch "asserts" do
      keyword "asserts"
      word "identifier"
      if ← isNextWord "is" then do keyword "is"; g .type
  else if wordAhead next == "is" && !(after.take (triviaLength after)).any isLineBreak then
    Parse.branch "type_predicate" do word "identifier"; keyword "is"; g .type
  else if isTypeStopper name then Parse.fail
  else typeName g

def primaryType (g : Rules) : Reading Unit := do
  match (← ahead).head? with
  | none => Parse.fail
  | some '\x7b' => Parse.branch "object_type" (typeMembers g)
  | some '[' =>
    Parse.branch "tuple_type" do
      char '['; inBrackets (commaSeparated ']' (tupleMember g)); close ']'
  | some '(' =>
    Parse.branch "parenthesized_type" do char '('; inBrackets (g .type); close ')'
  | some '\x60' => templateType g
  | some '"' => string
  | some '\'' => string
  | some '-' => do operator "-"; number
  | some '*' => operator "*"
  | some c => if c.isDigit then number else wordType g

def operandType (g : Rules) : Reading Unit := do
  primaryType g
  Parse.many do
    if (← nextChar?) == some '[' && (← continuesType) then
      Parse.around "array_type" "" do
        char '['
        if (← nextChar?) != some ']' then inBrackets (g .type)
        char ']'
      pure true
    else pure false

def atFunctionType (g : Rules) : Reading Bool := do
  let text ← ahead
  let name := wordAhead text
  if name == "new" || (name == "abstract" && wordAhead (afterTrivia (text.drop 8)) == "new") then
    pure true
  else match text.head? with
    | some '<' => pure true
    | some '(' => Parse.test do strictly (do parameters g; operator "=>"); pure true
    | _ => pure false

def typeExpression (g : Rules) : Reading Unit := do
  if ← atFunctionType g then functionType g
  else
    let _ ← Parse.attempt (operator "|" <|> operator "&")
    g .operandType
    Parse.many do
      let op ← nextOperator
      if op == "|" || op == "&" then
        Parse.around (if op == "|" then "union_type" else "intersection_type") "" do
          operator op
          if ← atFunctionType g then functionType g else g .operandType
        pure true
      else pure false
    if (← isNextWord "extends") && (← continuesType) then
      Parse.around "conditional_type" "left" do
        keyword "extends"
        Parse.role "right" (g .type)
        operator "?"
        Parse.role "consequence" (inBrackets (g .type))
        operator ":"
        Parse.role "alternative" (g .type)

end Phrasebook.Script
