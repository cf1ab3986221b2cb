import Phrasebook.Data.Yaml.Token

namespace Phrasebook.Data.Yaml

inductive Node where
  | scalar (type : Option (List Char)) (plain : Bool) (text : List Char)
  | list (type : Option (List Char)) (items : List Node)
  | mapping (type : Option (List Char)) (entries : List (Node × Node))
  deriving Inhabited

namespace Node

def absent : Node := scalar none true []

end Node

def freeType : List Char := ['!']

def standardPrefix : List Char := "tag:yaml.org,2002:".toList

/-- A tree being read: the tokens that are left, what the handles of types stand for, and the nodes
    with anchors. A node that is not complete yet has its name only. -/
structure Reading where
  tokens : List Token
  handles : List (List Char × List Char)
  anchors : List (List Char × Option Node)

abbrev Builder := StateT Reading (Except Fault)

inductive Part where
  | block
  /-- A block node; a list in it may stand at the column of its key. -/
  | entryValue
  | flow
  deriving DecidableEq, Repr

namespace Builder

def peek? : Builder (Option Token) := return (← get).tokens.head?

def skip : Builder Unit := modify fun state => { state with tokens := state.tokens.drop 1 }

def fail {α : Type} : Builder α := throw .malformed

def isAhead (tokens : List Token) : Builder Bool := return (← peek?).any tokens.contains

def accept (token : Token) : Builder Bool := do
  if (← peek?) == some token then
    skip
    return true
  else return false

def expect (token : Token) : Builder Unit := do
  if ← accept token then pure () else fail

def orAbsent (tokens : List Token) (node : Builder Node) : Builder Node := do
  if ← isAhead tokens then return .absent else node

def after (token : Token) (tokens : List Token) (node : Builder Node) : Builder Node := do
  if ← accept token then orAbsent tokens node else return .absent

def listItems (following : List Token) (item : Builder Node) : Nat → Builder (List Node)
  | 0 => fail
  | n + 1 => do
    if ← accept .item then
      let first ← orAbsent following item
      return first :: (← listItems following item n)
    else return []

def blockEntries (value : Builder Node) : Nat → Builder (List (Node × Node))
  | 0 => fail
  | n + 1 => do
    if ← accept .key then
      let following := [.key, .value, .blockEnd]
      let name ← orAbsent following value
      let content ← after .value following value
      return (name, content) :: (← blockEntries value n)
    else return []

/-- The items of a flow list, with commas between them; a key makes a mapping of one entry. -/
def flowItems (node : Builder Node) : Nat → Bool → Builder (List Node)
  | 0, _ => fail
  | n + 1, first => do
    if ← accept .flowListEnd then return []
    else
      if !first then expect .comma
      if ← accept .key then
        let name ← orAbsent [.value, .comma, .flowListEnd] node
        let content ← after .value [.comma, .flowListEnd] node
        return .mapping none [(name, content)] :: (← flowItems node n false)
      else if ← accept .flowListEnd then return []
      else
        let item ← node
        return item :: (← flowItems node n false)

def flowEntries (node : Builder Node) : Nat → Bool → Builder (List (Node × Node))
  | 0, _ => fail
  | n + 1, first => do
    if ← accept .flowMappingEnd then return []
    else
      if !first then expect .comma
      if ← accept .key then
        let name ← orAbsent [.value, .comma, .flowMappingEnd] node
        let content ← after .value [.comma, .flowMappingEnd] node
        return (name, content) :: (← flowEntries node n false)
      else if ← accept .flowMappingEnd then return []
      else
        let name ← node
        return (name, .absent) :: (← flowEntries node n false)

def typeName (handle : Option (List Char)) (suffix : List Char) : Builder (List Char) := do
  match handle with
  | none => return suffix
  | some handle =>
    match (← get).handles.lookup handle with
    | some start => return start ++ suffix
    | none => fail

def anchor? : Builder (Option (List Char)) := do
  match ← peek? with
  | some (.anchor name) =>
    skip
    return some name
  | _ => return none

def type? : Builder (Option (List Char)) := do
  match ← peek? with
  | some (.tag handle suffix) =>
    skip
    return some (← typeName handle suffix)
  | _ => return none

def properties : Builder (Option (List Char) × Option (List Char)) := do
  let first ← anchor?
  let type ← type?
  let anchor ← if first.isSome then pure first else anchor?
  return (anchor, type)

def content (part : Part) (child : Part → Builder Node) (type : Option (List Char))
    (isAnchored : Bool) : Builder Node := do
  let count := (← get).tokens.length + 1
  let empty : Builder Node :=
    if isAnchored || type.isSome then return .scalar type (type.all (· == freeType)) [] else fail
  match ← peek? with
  | some .item =>
    if part == .entryValue then
      return .list type (← listItems [.item, .key, .value, .blockEnd] (child .block) count)
    else empty
  | some (.scalar plain text) =>
    skip
    return .scalar type ((plain && type.isNone) || type == some freeType) text
  | some .flowList =>
    skip
    return .list type (← flowItems (child .flow) count true)
  | some .flowMapping =>
    skip
    return .mapping type (← flowEntries (child .flow) count true)
  | some .blockList =>
    if part == .flow then empty
    else
      skip
      let items ← listItems [.item, .blockEnd] (child .block) count
      expect .blockEnd
      return .list type items
  | some .blockMapping =>
    if part == .flow then empty
    else
      skip
      let entries ← blockEntries (child .entryValue) count
      expect .blockEnd
      return .mapping type entries
  | _ => empty

def anchored (name : List Char) (node : Builder Node) : Builder Node := do
  if ((← get).anchors.lookup name).isSome then fail
  else
    modify fun state => { state with anchors := (name, none) :: state.anchors }
    let node ← node
    modify fun state => { state with anchors := (name, some node) :: state.anchors }
    return node

def node : Nat → Part → Builder Node
  | 0, _ => fail
  | n + 1, part => do
    match ← peek? with
    | some (.alias name) =>
      skip
      match (← get).anchors.lookup name with
      | some (some node) => return node
      | _ => fail
    | _ =>
      let (anchor, type) ← properties
      let content := content part (node n) type anchor.isSome
      match anchor with
      | some name => anchored name content
      | none => content

def isNumber (text : List Char) : Bool := !text.isEmpty && text.all Char.isDigit

def isKnownVersion (text : List Char) : Bool :=
  let major := text.takeWhile Char.isDigit
  major.any (· != '0') && (major.dropWhile (· == '0')) == ['1'] &&
    match text.drop major.length with
    | '.' :: minor => isNumber minor
    | _ => false

def isHandle (text : List Char) : Bool :=
  match text with
  | '!' :: rest => rest.isEmpty || (rest.getLast? == some '!' && rest.dropLast.all Lexing.isNameChar)
  | _ => false

def directives : Nat → Bool → List (List Char) → Builder Unit
  | 0, _, _ => fail
  | n + 1, versioned, handles => do
    match ← peek? with
    | some (.directive name words) =>
      skip
      if name == "YAML".toList then
        match words with
        | [version] => if versioned || !isKnownVersion version then fail else directives n true handles
        | _ => fail
      else if name == "TAG".toList then
        match words with
        | [handle, start] =>
          if handles.contains handle || !isHandle handle || !start.all Lexing.isTagChar then fail
          else
            modify fun state => { state with handles := (handle, start) :: state.handles }
            directives n versioned (handle :: handles)
        | _ => fail
      else directives n versioned handles
    | _ => pure ()

def documentEnds : Nat → Builder Unit
  | 0 => pure ()
  | n + 1 => do
    if ← accept .documentEnd then documentEnds n else pure ()

def isDirective : Token → Bool
  | .directive _ _ => true
  | _ => false

def isDocumentStart (token : Token) : Bool := isDirective token || token == .documentStart

def document : Builder (Option Node) := do
  let count := (← get).tokens.length + 1
  let first ← peek?
  if first.any isDocumentStart then
    directives count false []
    expect .documentStart
  let next ← peek?
  let root ←
    if first.isNone then pure none
    else if first.any isDocumentStart &&
        next.all (fun token => isDocumentStart token || token == .documentEnd) then
      pure (some Node.absent)
    else some <$> node count .block
  documentEnds count
  if (← peek?).isNone then return root else fail

end Builder

def Node.ofTokens (tokens : List Token) : Except Fault (Option Node) := do
  let handles := [(['!'], ['!']), (['!', '!'], standardPrefix)]
  let (root, _) ← Builder.document ⟨tokens, handles, []⟩
  return root

end Phrasebook.Data.Yaml
