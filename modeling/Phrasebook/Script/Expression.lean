import Phrasebook.Script.Type

namespace Phrasebook.Script

open Syntax Reading

def closesOperand (c : Option Char) : Bool :=
  match c with
  | none => true
  | some c => ")]\x7d,;:".toList.contains c

def templateString (g : Rules) : Reading Unit := do
  skipTrivia
  Parse.branch "template_string" do
    Parse.leaf "\x60" false 1
    Parse.many do
      let text ← Parse.rest
      match text with
      | '\x60' :: _ => do Parse.leaf "\x60" false 1; pure false
      | '$' :: '\x7b' :: _ =>
        Parse.branch "template_substitution" do
          Parse.leaf "$\x7b" false 2
          inBrackets (g .sequence)
          char '\x7d'
        pure true
      | '\\' :: after =>
        match escapedLength after with
        | some n => do Parse.leaf "escape_sequence" true (n + 1); pure true
        | none => Parse.fail
      | '$' :: _ => do Parse.leaf "string_fragment" true 1; pure true
      | _ :: _ =>
        Parse.leaf "string_fragment" true
          (countWhile (fun c => !(c == '\x60' || c == '$' || c == '\\')) text)
        pure true
      | [] => Parse.fail

def spread (g : Rules) : Reading Unit :=
  Parse.branch "spread_element" do operator "..."; g .expression

def listItem (g : Rules) : Reading Unit := do
  if ← isNext "..." then spread g else g .expression

def arguments (g : Rules) : Reading Unit :=
  Parse.branch "arguments" do
    char '('
    inBrackets (commaList ')' (listItem g))
    close ')'

def array (g : Rules) : Reading Unit :=
  Parse.branch "array" do
    char '['
    inBrackets (commaList ']' (listItem g))
    close ']'

def parenthesized (g : Rules) : Reading Unit :=
  Parse.branch "parenthesized_expression" do
    char '('
    inBrackets do
      g .sequence
      optionalAscription g
    close ')'

def functionBody (g : Rules) : Reading Unit :=
  Parse.role "body" (inStatements (g .block))

def modifiesProperty (name : String) : Reading Bool :=
  modifiesNext name ['[', '"', '\'', '#', '0', '1', '2', '3', '4', '5', '6', '7', '8', '9']

def methodRest (g : Rules) : Reading Unit := do
  signature g
  functionBody g

def methodModifiers : Reading Unit := do
  for modifier in ["static", "async"] do
    if (← modifiesProperty modifier) || (← modifiesNext modifier ['*']) then keyword modifier
  if ← isNext "*" then operator "*"
  else if ← modifiesProperty "get" then keyword "get"
  else if ← modifiesProperty "set" then keyword "set"

def objectMember (g : Rules) : Reading Unit := do
  if ← isNext "..." then spread g
  else
    let isMethod ← Parse.test do
      strictly do
        methodModifiers
        propertyName g
        let next ← nextChar?
        pure (next == some '(' || ((← types) && next == some '<'))
    if isMethod then
      Parse.branch "method_definition" do
        methodModifiers
        Parse.role "name" (propertyName g)
        methodRest g
    else
      let isWord := (← nextWord) != ""
      let reserved := isReserved (← nextWord)
      propertyName g
      if ← isNext ":" then
        Parse.around "pair" "key" do
          operator ":"
          Parse.role "value" (g .expression)
      else if isWord && !reserved then
        Parse.asKind "shorthand_property_identifier" (pure ())
      else Parse.fail

def object (g : Rules) : Reading Unit :=
  Parse.branch "object" do
    char '\x7b'
    inBrackets (commaList '\x7d' (objectMember g))
    close '\x7d'

def patternElement (g : Rules) : Reading Unit := do
  if ← isNext "..." then restPattern g
  else
    g .target
    if ← isNext "=" then
      Parse.around "assignment_pattern" "left" do
        operator "="
        Parse.role "right" (g .expression)

def objectPatternMember (g : Rules) : Reading Unit := do
  if ← isNext "..." then restPattern g
  else
    let isWord := (← nextWord) != ""
    propertyName g
    if ← isNext ":" then
      Parse.around "pair_pattern" "key" do
        operator ":"
        Parse.role "value" (patternElement g)
    else
      Parse.require isWord
      Parse.asKind "shorthand_property_identifier_pattern" (pure ())
      if ← isNext "=" then
        Parse.around "object_assignment_pattern" "left" do
          operator "="
          Parse.role "right" (g .expression)

def destructuring (g : Rules) : Reading Unit := do
  match ← nextChar? with
  | some '[' =>
    Parse.branch "array_pattern" do
      char '['
      inBrackets (commaList ']' (patternElement g))
      close ']'
  | some '\x7b' =>
    Parse.branch "object_pattern" do
      char '\x7b'
      inBrackets (commaList '\x7d' (objectPatternMember g))
      close '\x7d'
  | _ => Parse.fail

def arrowHead (g : Rules) : Reading Unit := do
  if ← isNextWord "async" then
    let text ← ahead
    let next := afterTrivia (text.drop 5)
    if wordLength next ≠ 0 || next.head? == some '(' || next.head? == some '<' then keyword "async"
  if (← nextWord) != "" then Parse.role "parameter" identifier
  else if (← Parse.settings).resultTypes then signature g
  else do
    optionalTypeParameters g
    Parse.role "parameters" (parameters g)
  operator "=>"

def arrowFunction (g : Rules) : Reading Unit :=
  Parse.branch "arrow_function" do
    arrowHead g
    Parse.role "body" do
      if (← nextChar?) == some '\x7b' then inStatements (g .block) else g .expression

def atArrowFunction (g : Rules) : Reading Bool := do
  let text ← ahead
  let opener := (text.head? == some '(') || (text.head? == some '<' && (← types))
  let name := wordAhead text
  if opener || (name != "" && !isReserved name) then
    Parse.test do strictly (arrowHead g); pure true
  else pure false

def functionExpression (g : Rules) : Reading Unit := do
  let generator ← Parse.test do
    let _ ← Parse.attempt (keyword "async")
    keyword "function"
    isNext "*"
  Parse.branch (if generator then "generator_function" else "function_expression") do
    let _ ← Parse.attempt (keyword "async")
    keyword "function"
    if generator then operator "*"
    let _ ← Parse.attempt (Parse.role "name" identifier)
    signature g
    functionBody g

def importExpression : Reading Unit := do
  let ofModule ← Parse.test do
    keyword "import"
    isNext "."
  if ofModule then
    Parse.branch "meta_property" do keyword "import"; operator "."; keyword "meta"
  else
    let call ← Parse.test do
      keyword "import"
      return (← nextChar?) == some '('
    Parse.require call
    namedKeyword "import"

def yieldExpression (g : Rules) : Reading Unit :=
  Parse.branch "yield_expression" do
    keyword "yield"
    if ← atStatementEnd true then pure ()
    else if ← isNext "*" then do operator "*"; g .expression
    else if closesOperand (← nextChar?) || (← isNextWord "in") || (← isNextWord "of") then pure ()
    else g .expression

def memberAccess : Reading Unit :=
  Parse.role "property" <| Parse.firstOf [word "property_identifier", privateName]

def neverBeginsOperand (op : String) : Bool :=
  ["?.", ".", "==", "===", "!=", "!==", "||", "&&", "??", "?", "|", "&", "^", "*", "**", "%",
    "<="].contains op

def statementWords : List String :=
  ["const", "let", "var", "if", "for", "while", "return", "throw", "export", "switch", "try"]

def postfixStep (g : Rules) (calls : Bool) : Reading Bool := do
  if ← atStatementEnd true then pure false
  else
    match ← nextOperator with
    | "." =>
      Parse.around "member_expression" "object" do operator "."; memberAccess
      pure true
    | "[" =>
      Parse.around "subscript_expression" "object" do
        char '['
        Parse.role "index" (inBrackets (g .sequence))
        close ']'
      pure true
    | "?." =>
      if !calls then pure false
      else
        let text ← ahead
        let next := (afterTrivia (text.drop 2)).head?
        let chain := token "optional_chain" true 2
        if next == some '(' || (next == some '<' && (← types)) then
          Parse.around "call_expression" "function" do
            chain
            if next == some '<' then Parse.role "type_arguments" (typeArguments g)
            Parse.role "arguments" (arguments g)
        else if next == some '[' then
          Parse.around "subscript_expression" "object" do
            chain
            char '['
            Parse.role "index" (inBrackets (g .sequence))
            close ']'
        else
          Parse.around "member_expression" "object" do chain; memberAccess
        pure true
    | "(" =>
      if !calls then pure false
      else
        Parse.around "call_expression" "function" (Parse.role "arguments" (arguments g))
        pure true
    | "!" =>
      if ← types then
        Parse.around "non_null_expression" "" (operator "!")
        pure true
      else pure false
    | op =>
      if (← nextChar?) == some '\x60' then
        Parse.around "call_expression" "function" (Parse.role "arguments" (templateString g))
        pure true
      else if (op == "<" || op == "<<") && (← types) then
        let next ← Parse.test do
          strictly (typeArguments g)
          let next ← nextChar?
          let op ← nextOperator
          pure (next == some '(' || next == some '\x60' || closesOperand next ||
            neverBeginsOperand op || statementWords.contains (← nextWord))
        if !next then pure false
        else
          let called ← Parse.test do
            strictly (typeArguments g)
            let next ← nextChar?
            pure (next == some '(' || next == some '\x60')
          if called && !calls then pure false
          else if called then
            Parse.around "call_expression" "function" do
              Parse.role "type_arguments" (typeArguments g)
              Parse.role "arguments" do
                if (← nextChar?) == some '(' then arguments g else templateString g
            pure true
          else
            Parse.around "instantiation_expression" "" (typeArguments g)
            pure true
      else pure false

def wordOperand (g : Rules) : Reading Unit := do
  match ← nextWord with
  | "function" => functionExpression g
  | "async" =>
    let function ← Parse.test do
      keyword "async"
      isNextWord "function"
    if function then functionExpression g else identifier
  | "class" => g .classOperand
  | "import" => importExpression
  | "yield" => yieldExpression g
  | "this" => namedKeyword "this"
  | "super" => namedKeyword "super"
  | "true" => namedKeyword "true"
  | "false" => namedKeyword "false"
  | "null" => namedKeyword "null"
  | _ => identifier

def primary (g : Rules) : Reading Unit := do
  if ← atArrowFunction g then arrowFunction g
  else
    match (← ahead).head? with
    | none => Parse.fail
    | some '"' => string
    | some '\'' => string
    | some '\x60' => templateString g
    | some '(' => parenthesized g
    | some '[' => array g
    | some '\x7b' => object g
    | some '/' => regex
    | some '<' => g .element
    | some '@' => g .classOperand
    | some '#' => do privateName; Parse.require (← isNextWord "in")
    | some c =>
      if c.isDigit || c == '.' then number else wordOperand g

def construction (g : Rules) : Reading Unit := do
  let target ← Parse.test do
    keyword "new"
    isNext "."
  if target then
    Parse.branch "meta_property" do keyword "new"; operator "."; keyword "target"
  else
    Parse.branch "new_expression" do
      keyword "new"
      Parse.role "constructor" do
        if ← isNextWord "new" then g .construction else primary g
        Parse.many (postfixStep g false)
      if (← types) && (← nextChar?) == some '<' then
        let _ ← guess (Parse.role "type_arguments" (typeArguments g))
      if (← nextChar?) == some '(' && !(← atStatementEnd true) then
        Parse.role "arguments" (arguments g)

def takesNoAccess (kind : String) : Bool :=
  ["arrow_function", "yield_expression", "jsx_element", "jsx_self_closing_element"].contains kind

def postfixOperand (g : Rules) : Reading Unit := do
  if ← isNextWord "new" then construction g else primary g
  if takesNoAccess (← Parse.lastKind) then pure () else Parse.many (postfixStep g true)

def target (g : Rules) : Reading Unit := do
  let next ← nextChar?
  if next == some '[' || next == some '\x7b' then
    destructuring g
  else
    postfixOperand g
    Parse.require (isAssignable (← Parse.lastKind))

/-- What a parameter binds. Unlike other targets, it begins with a name and holds no calls. -/
def bound (g : Rules) : Reading Unit := do
  let next ← nextChar?
  if next == some '[' || next == some '\x7b' then
    destructuring g
  else
    if ← isNextWord "this" then namedKeyword "this" else identifier
    Parse.many (postfixStep g false)
    Parse.require (isAssignable (← Parse.lastKind))

def augmentedOperators : List String :=
  ["+=", "-=", "*=", "/=", "%=", "^=", "&=", "|=", ">>=", ">>>=", "<<=", "**=", "&&=", "||=",
    "??="]

def assignmentRest (g : Rules) : Reading Unit := do
  let kind ← Parse.lastKind
  if takesNoAccess kind || (← atStatementEnd true) then pure ()
  else
    let op ← nextOperator
    if op == "++" || op == "--" then
      Parse.around "update_expression" "argument" (operator op)
    else if isAssignable kind then
      if op == "=" then
        Parse.around "assignment_expression" "left" do
          operator "="
          Parse.role "right" (g .expression)
      else if augmentedOperators.contains op then
        Parse.around "augmented_assignment_expression" "left" do
          operator op
          Parse.role "right" (g .expression)

def assignable (g : Rules) : Reading Unit := do
  postfixOperand g
  Parse.require (!(["array", "object"].contains (← Parse.lastKind) && (← isNext "=")))
  assignmentRest g

def destructuringAssignment (g : Rules) : Reading Unit := do
  strictly (destructuring g)
  Parse.require (← isNext "=")
  assignmentRest g

def unary (g : Rules) : Reading Unit := do
  let op ← nextOperator
  let name ← nextWord
  if ["!", "~", "-", "+"].contains op then
    Parse.branch "unary_expression" do
      Parse.role "operator" (operator op)
      Parse.role "argument" (g .unary)
  else if ["typeof", "void", "delete"].contains name then
    Parse.branch "unary_expression" do
      Parse.role "operator" (keyword name)
      Parse.role "argument" (g .unary)
  else if name == "await" then
    Parse.branch "await_expression" do keyword "await"; g .unary
  else if op == "++" || op == "--" then
    Parse.branch "update_expression" do
      operator op
      Parse.role "argument" (g .unary)
  else if op == "[" || op == "\x7b" then
    Parse.orElseFirst (assignable g) (destructuringAssignment g)
  else
    let setting ← Parse.settings
    if setting.dialect.types && !setting.dialect.elements && op.toList.head? == some '<' &&
        !(← atArrowFunction g) then
      Parse.branch "type_assertion" do typeArguments g; g .unary
    else assignable g

def precedence (types : Bool) (op : String) : Nat :=
  if op == "??" then 1
  else if op == "||" then 2
  else if op == "&&" then 3
  else if op == "|" then 4
  else if op == "^" then 5
  else if op == "&" then 6
  else if ["==", "!=", "===", "!=="].contains op then 7
  else if ["<", ">", "<=", ">=", "in", "instanceof"].contains op then 8
  else if types && ["as", "satisfies"].contains op then 8
  else if ["<<", ">>", ">>>"].contains op then 9
  else if ["+", "-"].contains op then 10
  else if ["*", "/", "%"].contains op then 11
  else if op == "**" then 12
  else 0

def binaryStep (g : Rules) (least : Nat) : Reading Bool := do
  if ← atStatementEnd true then pure false
  else
    let name ← nextWord
    let op ← if name == "" then nextOperator else pure name
    let p := precedence (← types) op
    let kind ← Parse.lastKind
    if p = 0 || p < least || kind == "arrow_function" || kind == "yield_expression" then pure false
    else
      if op == "as" || op == "satisfies" then
        Parse.around (op ++ "_expression") "" do
          keyword op
          if ← isNextWord "const" then keyword "const" else inBrackets (g .type)
      else
        Parse.around "binary_expression" "left" do
          Parse.role "operator" (if name == "" then operator op else keyword name)
          Parse.role "right" (g (.binary (if op == "**" then p else p + 1)))
      pure true

def binary (g : Rules) (least : Nat) : Reading Unit := do
  g .unary
  Parse.many (binaryStep g least)

/-- What a condition chooses if it holds, and the colon after it. With types, the colon may have been
    taken for the one before an arrow function's result type. -/
def consequence (g : Rules) : Reading Unit := do
  let upToColon (p : Reading Unit) : Reading Unit := do
    Parse.role "consequence" p
    operator ":"
  if ← types then
    upToColon (inBrackets (g .expression)) <|>
      upToColon (inBrackets (withoutResultTypes (g .expression)))
  else upToColon (inBrackets (g .expression))

def expression (g : Rules) : Reading Unit := do
  g (.binary 1)
  if (← isNext "?") && !(← atStatementEnd true) then
    Parse.around "ternary_expression" "condition" do
      operator "?"
      consequence g
      Parse.role "alternative" (g .expression)

def sequence (g : Rules) : Reading Unit := do
  g .expression
  if ← isNext "," then
    Parse.around "sequence_expression" "" do
      Parse.many do
        if ← isNext "," then do operator ","; g .expression; pure true else pure false

end Phrasebook.Script
