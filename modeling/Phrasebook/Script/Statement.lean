import Phrasebook.Script.Class

namespace Phrasebook.Script

open Syntax Reading

/-- Sets the text from the last good place to the cursor aside as an error, joining it to an error
    directly before. -/
def setAside (before : List Node) (partly : List Node) : List Node :=
  match before with
  | last :: rest =>
    if last.kind == Node.errorKind then
      Node.branch Node.errorKind last.start (last.children ++ partly) :: rest
    else Node.branch Node.errorKind last.stop partly :: before
  | [] => [Node.branch Node.errorKind 0 partly]

def anyToken : Reading Unit := do
  let text ← ahead
  let n := wordLength text
  if n ≠ 0 then token "identifier" true n
  else
    let m := numberLength text
    if m ≠ 0 then token "number" true m
    else match stringLength? false text with
      | some k => token "string" true k
      | none =>
        match operatorAhead text with
        | "" => token ((text.head?.map Char.toString).getD "") false 1
        | op => token op false op.length

/-- A statement, or what could be read of one. What was understood of a statement that goes wrong is
    set aside with its complete parts, and reading goes on where it stopped; where nothing was
    understood one token is set aside. -/
def mendedStatement (p : Reading Unit) : Reading Unit := fun s c =>
  match p s { c with nodes := [] } with
  | .read _ r => .read () { r with nodes := r.nodes ++ c.nodes }
  | .stuck r =>
    if r.rest.length < c.rest.length then
      .read () { r with nodes := setAside c.nodes r.nodes.reverse }
    else match anyToken s { c with nodes := [] } with
      | .read _ r => .read () { r with nodes := setAside c.nodes r.nodes.reverse }
      | .stuck r => .stuck r

def skipMarkupComments : Reading Unit :=
  Parse.many do
    skipTrivia
    let n := markupCommentLength (← Parse.rest)
    Parse.drop n
    return n ≠ 0

def statements (g : Rules) (stop : List Char → Bool) : Reading Unit :=
  Parse.many do
    skipMarkupComments
    let text ← ahead
    if text.isEmpty || stop text then pure false
    else if (← Parse.settings).tolerant then do mendedStatement (g .statement); pure true
    else do g .statement; pure true

def closesBlock (text : List Char) : Bool := text.head? == some '\x7d'

def block (g : Rules) : Reading Unit :=
  Parse.branch "statement_block" do
    char '\x7b'
    inStatements (statements g closesBlock)
    close '\x7d'

def condition (g : Rules) : Reading Unit :=
  Parse.branch "parenthesized_expression" do
    char '('
    inBrackets (g .sequence)
    close ')'

/-- A name or pattern that a declaration binds. With types, no word is reserved in this place. -/
def binding (g : Rules) : Reading Unit := do
  let name ← nextWord
  if name == "" then destructuring g
  else if (← types) || name == "yield" || name == "await" then word "identifier"
  else identifier

def declarator (g : Rules) : Reading Bool := do
  Parse.branch "variable_declarator" do
    Parse.role "name" (binding g)
    if (← types) && (← isNext "!") then operator "!"
    optionalAscription g
    if ← isNext "=" then
      operator "="
      Parse.role "value" (g .expression)
  return true

def lastHasValue : Reading Bool := fun _ c =>
  .read (match c.nodes with
    | last :: _ => last.children.any (·.field == "value")
    | [] => false) c

def declarators (g : Rules) : Reading Unit := do
  let _ ← declarator g
  Parse.many do
    if ← isNext "," then do operator ","; declarator g else pure false

def variableDeclaration (g : Rules) (kind word : String) : Reading Unit :=
  Parse.branch kind do
    keyword word
    declarators g
    semicolon (← lastHasValue)

def letDeclares (text : List Char) : Bool :=
  let next := afterTrivia (text.drop 3)
  wordLength next ≠ 0 && !(["in", "instanceof"].contains (wordAhead next)) ||
    next.head? == some '[' || next.head? == some '\x7b'

def ifStatement (g : Rules) : Reading Unit :=
  Parse.branch "if_statement" do
    keyword "if"
    Parse.role "condition" (condition g)
    Parse.role "consequence" (g .statement)
    if ← isNextWord "else" then
      Parse.role "alternative" <| Parse.branch "else_clause" do
        keyword "else"; g .statement

def loopOver (g : Rules) : Reading Unit := do
  if ["var", "let", "const"].contains (← nextWord) then
    anyKeyword ["var", "let", "const"]
    Parse.role "left" (binding g)
  else
    Parse.role "left" (g .target)
  if ← isNext "=" then
    operator "="
    Parse.role "value" (g (.binary 9))
  Parse.role "operator" (anyKeyword ["in", "of"])

def forStatement (g : Rules) : Reading Unit := do
  let goesOver ← Parse.test do
    strictly do
      keyword "for"
      let _ ← Parse.attempt (keyword "await")
      char '('
      inBrackets (loopOver g)
      pure true
  if goesOver then
    Parse.branch "for_in_statement" do
      keyword "for"
      let _ ← Parse.attempt (keyword "await")
      char '('
      inBrackets (loopOver g)
      Parse.role "right" (inBrackets (g .sequence))
      close ')'
      Parse.role "body" (g .statement)
  else
    Parse.branch "for_statement" do
      keyword "for"
      char '('
      inBrackets do
        let name ← nextWord
        if name == "var" || name == "const" || (name == "let" && letDeclares (← ahead)) then
          Parse.role "initializer" <| Parse.branch "lexical_declaration" do
            keyword name
            declarators g
            operator ";"
        else
          if !(← isNext ";") then Parse.role "initializer" (g .sequence)
          operator ";"
        if !(← isNext ";") then Parse.role "condition" (g .sequence)
        operator ";"
        if !(← isNext ")") then Parse.role "increment" (g .sequence)
      close ')'
      Parse.role "body" (g .statement)

def endsCase (text : List Char) : Bool :=
  closesBlock text || wordAhead text == "case" || wordAhead text == "default"

def switchCase (g : Rules) : Reading Unit := do
  if ← isNextWord "case" then
    Parse.branch "switch_case" do
      keyword "case"
      Parse.role "value" (inBrackets (g .sequence))
      operator ":"
      statements g endsCase
  else
    Parse.branch "switch_default" do
      keyword "default"
      operator ":"
      statements g endsCase

def switchStatement (g : Rules) : Reading Unit :=
  Parse.branch "switch_statement" do
    keyword "switch"
    Parse.role "value" (condition g)
    Parse.role "body" <| Parse.branch "switch_body" do
      char '\x7b'
      inStatements <| Parse.many do
        let next ← nextChar?
        if next == some '\x7d' || next == none then pure false
        else do switchCase g; pure true
      close '\x7d'

def tryStatement (g : Rules) : Reading Unit :=
  Parse.branch "try_statement" do
    keyword "try"
    Parse.role "body" (g .block)
    if ← isNextWord "catch" then
      Parse.role "handler" <| Parse.branch "catch_clause" do
        keyword "catch"
        if (← nextChar?) == some '(' then
          char '('
          inBrackets do
            Parse.role "parameter" (binding g)
            optionalAscription g
          close ')'
        Parse.role "body" (g .block)
    if ← isNextWord "finally" then
      Parse.role "finalizer" <| Parse.branch "finally_clause" do
        keyword "finally"
        Parse.role "body" (g .block)

def jump (kind word : String) (operand : Reading Unit) (afterExpression : Bool) : Reading Unit :=
  Parse.branch kind do
    keyword word
    if closesStatement (← types) false (← Parse.rest) then pure ()
    else if ← isNext ";" then operator ";"
    else
      operand
      semicolon afterExpression

def expressionStatement (g : Rules) : Reading Unit :=
  Parse.branch "expression_statement" do
    g .sequence
    semicolon true

def functionDeclaration (g : Rules) : Reading Unit := do
  let bodied ← Parse.test do
    strictly do
      functionHead
      return (← nextChar?) == some '\x7b'
  let complete ← if bodied then pure false else guess do
    Parse.require (← types)
    Parse.branch "function_signature" do
      functionHead
      semicolon false
  if complete then pure ()
  else
    Parse.branch "function_declaration" do
      functionHead
      functionBody g
where
  functionHead : Reading Unit := do
    let _ ← Parse.attempt (keyword "async")
    keyword "function"
    let _ ← Parse.attempt (operator "*")
    let _ ← Parse.attempt (Parse.role "name" identifier)
    signature g

def classDeclaration (g : Rules) : Reading Unit :=
  Parse.branch "class_declaration" do
    decoratorsBefore g
    let _ ← Parse.attempt (keyword "abstract")
    classRest g

def moduleSource : Reading Unit := do
  keyword "from"
  Parse.role "source" string

def importAttributes (g : Rules) : Reading Unit := do
  let name ← nextWord
  if name == "with" || name == "assert" then
    Parse.branch "import_attribute" do keyword name; object g

def specifier (kind : String) : Reading Unit :=
  Parse.branch kind do
    if ← modifiesNext "type" ['"', '\''] then
      let text ← ahead
      let second := wordAhead (afterTrivia (text.drop 4))
      if (← types) && second != "as" then keyword "type"
    if (← nextWord) != "" then word "identifier" else string
    if ← isNextWord "as" then
      keyword "as"
      if (← nextWord) != "" then word "identifier" else string

def specifiers (kind item : String) : Reading Unit :=
  Parse.branch kind do
    char '\x7b'
    inBrackets (commaSeparated '\x7d' (specifier item))
    close '\x7d'

def importClause : Reading Unit :=
  Parse.branch "import_clause" do
    let namespaceImport := Parse.branch "namespace_import" do
      operator "*"; keyword "as"; identifier
    let group : Reading Unit := do
      if (← nextChar?) == some '*' then namespaceImport
      else specifiers "named_imports" "import_specifier"
    if (← nextWord) != "" then
      identifier
      if ← isNext "," then do operator ","; group
    else group

/-- What an import gives another name to: a module that is required, or a name in a namespace. -/
def importTarget : Reading Unit := do
  let requires ← Parse.test do
    keyword "require"
    return (← nextChar?) == some '('
  if requires then
    Parse.branch "import_require_clause" do
      keyword "require"; char '('; Parse.role "source" string; close ')'
  else
    identifier
    Parse.many do
      if ← isNext "." then
        Parse.around "nested_identifier" "object" do
          operator "."
          Parse.role "property" (word "property_identifier")
        pure true
      else pure false

def importStatement (g : Rules) : Reading Unit :=
  Parse.branch "import_statement" do
    keyword "import"
    if (← types) && ((← isNextWord "type") || (← isNextWord "typeof")) then
      let text ← ahead
      let name := wordAhead text
      let next := afterTrivia (text.drop name.length)
      let second := wordAhead next
      if next.head? == some '\x7b' || next.head? == some '*' || (second != "" && second != "from") then
        keyword name
    let requires ← Parse.test do
      identifier
      isNext "="
    if (← types) && requires then
      identifier
      operator "="
      importTarget
    else
      match (← ahead).head? with
      | some '"' => Parse.role "source" string
      | some '\'' => Parse.role "source" string
      | _ => do importClause; moduleSource
      importAttributes g
    semicolon false

def exportStatement (g : Rules) (declaration : Reading Unit) : Reading Unit :=
  Parse.branch "export_statement" do
    decoratorsBefore g
    keyword "export"
    let types ← types
    let next ← nextChar?
    let name ← nextWord
    if next == some '*' then everything
    else if next == some '\x7b' then exported
    else if types && next == some '=' then
      operator "="
      g .expression
      semicolon true
    else if types && name == "as" then
      keyword "as"; keyword "namespace"; identifier; semicolon false
    else if types && name == "type" && ['\x7b', '*'].contains
        (((afterTrivia ((← ahead).drop 4)).head?).getD ' ') then
      keyword "type"
      if (← nextChar?) == some '*' then everything else exported
    else if name == "default" then
      keyword "default"
      let text ← ahead
      let declares := ["function", "class"].contains (wordAhead text) || text.head? == some '@' ||
        (wordAhead text == "async" &&
          wordAhead (afterTrivia (text.drop 5)) == "function") ||
        (types && (wordAhead text == "abstract" || wordAhead text == "interface") &&
          wordLength (afterTrivia (text.drop (wordLength text))) ≠ 0)
      if declares then Parse.role "declaration" declaration
      else
        Parse.role "value" (g .expression)
        semicolon true
    else if types && name == "import" then importStatement g
    else Parse.role "declaration" declaration
where
  everything : Reading Unit := do
    operator "*"
    if ← isNextWord "as" then
      keyword "as"
      if (← nextWord) != "" then word "identifier" else string
    moduleSource
    importAttributes g
    semicolon false
  exported : Reading Unit := do
    specifiers "export_clause" "export_specifier"
    if ← isNextWord "from" then
      moduleSource
      importAttributes g
    semicolon false

def enumMember (g : Rules) : Reading Unit := do
  propertyName g
  if ← isNext "=" then
    Parse.around "enum_assignment" "name" do operator "="; Parse.role "value" (g .expression)

def enumDeclaration (g : Rules) : Reading Unit :=
  Parse.branch "enum_declaration" do
    let _ ← Parse.attempt (keyword "const")
    keyword "enum"
    Parse.role "name" identifier
    Parse.role "body" <| Parse.branch "enum_body" do
      char '\x7b'
      inBrackets (commaSeparated '\x7d' (enumMember g))
      close '\x7d'

def typeAlias (g : Rules) : Reading Unit :=
  Parse.branch "type_alias_declaration" do
    keyword "type"
    Parse.role "name" (word "type_identifier")
    optionalTypeParameters g
    operator "="
    Parse.role "value" (g .type)
    semicolon false

def interfaceDeclaration (g : Rules) : Reading Unit :=
  Parse.branch "interface_declaration" do
    keyword "interface"
    Parse.role "name" (word "type_identifier")
    optionalTypeParameters g
    if ← isNextWord "extends" then
      Parse.branch "extends_type_clause" do
        keyword "extends"
        inBrackets (commaSeparated '\x7b' (g .type))
    Parse.role "body" (Parse.branch "interface_body" (typeMembers g))

def moduleDeclaration (g : Rules) : Reading Unit :=
  Parse.branch "internal_module" do
    anyKeyword ["namespace", "module", "global"]
    if (← nextWord) != "" then typeName g
    else if (← nextChar?) == some '"' || (← nextChar?) == some '\'' then string
    if (← nextChar?) == some '\x7b' then g .block else semicolon false

def isContextual (name : String) (text : List Char) : Bool :=
  let after := text.drop name.length
  let next := afterTrivia after
  wordAhead text == name && wordLength next ≠ 0 &&
    !(["in", "of", "instanceof", "as", "satisfies"].contains (wordAhead next)) &&
    !(after.take (triviaLength after)).any isLineBreak

def declaration (g : Rules) : Reading Unit := do
  let types ← types
  let text ← ahead
  let name := wordAhead text
  let next := afterTrivia (text.drop name.length)
  if text.head? == some '@' then classDeclaration g
  else match name with
    | "function" => functionDeclaration g
    | "async" => functionDeclaration g
    | "class" => classDeclaration g
    | "var" => variableDeclaration g "variable_declaration" "var"
    | "let" => variableDeclaration g "lexical_declaration" "let"
    | "const" =>
      if types && wordAhead next == "enum" then enumDeclaration g
      else variableDeclaration g "lexical_declaration" "const"
    | "interface" => interfaceDeclaration g
    | "type" => typeAlias g
    | "enum" => enumDeclaration g
    | "namespace" => moduleDeclaration g
    | "module" => moduleDeclaration g
    | "abstract" => classDeclaration g
    | "declare" =>
      Parse.branch "ambient_declaration" do
        keyword "declare"
        if ← isNextWord "global" then moduleDeclaration g else g .statement
    | _ => Parse.fail

def isTypedDeclaration (text : List Char) : Bool :=
  ["interface", "type", "enum", "namespace", "abstract", "declare", "module"].any
      (isContextual · text) ||
    (wordAhead text == "module" && ((afterTrivia (text.drop 6)).head? == some '"' ||
      (afterTrivia (text.drop 6)).head? == some '\''))

def decorated (g : Rules) : Reading Unit := do
  let exports ← Parse.test do
    strictly (decoratorsBefore g)
    isNextWord "export"
  if exports then exportStatement g (declaration g) else classDeclaration g

def statement (g : Rules) : Reading Unit := do
  let types ← types
  let text ← ahead
  let name := wordAhead text
  let next := afterTrivia (text.drop name.length)
  match text.head? with
  | some '\x7b' => g .block
  | some ';' => Parse.branch "empty_statement" (operator ";")
  | some '@' => decorated g
  | _ =>
    if name != "" && next.head? == some ':' && !isReserved name && operatorAhead next == ":" then
      Parse.branch "labeled_statement" do
        Parse.role "label" (word "statement_identifier")
        operator ":"
        Parse.role "body" (g .statement)
    else match name with
      | "import" =>
        if next.head? == some '(' || next.head? == some '.' then expressionStatement g
        else importStatement g
      | "export" => exportStatement g (declaration g)
      | "debugger" => jump "debugger_statement" "debugger" Parse.fail false
      | "if" => ifStatement g
      | "switch" => switchStatement g
      | "for" => forStatement g
      | "while" =>
        Parse.branch "while_statement" do
          keyword "while"
          Parse.role "condition" (condition g)
          Parse.role "body" (g .statement)
      | "do" =>
        Parse.branch "do_statement" do
          keyword "do"
          Parse.role "body" (g .statement)
          keyword "while"
          Parse.role "condition" (condition g)
          if ← isNext ";" then operator ";"
      | "try" => tryStatement g
      | "with" =>
        Parse.branch "with_statement" do
          keyword "with"
          Parse.role "object" (condition g)
          Parse.role "body" (g .statement)
      | "break" => jump "break_statement" "break" (Parse.role "label" identifier) false
      | "continue" => jump "continue_statement" "continue" (Parse.role "label" identifier) false
      | "return" => jump "return_statement" "return" (g .sequence) true
      | "throw" =>
        Parse.branch "throw_statement" do
          keyword "throw"
          g .sequence
          semicolon true
      | _ =>
        if ["function", "class", "var", "const"].contains name ||
            (name == "let" && letDeclares text) ||
            (name == "async" && isContextual "async" text && wordAhead next == "function") ||
            (types && isTypedDeclaration text) then declaration g
        else expressionStatement g

end Phrasebook.Script
