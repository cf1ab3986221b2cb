import Phrasebook.Data.Yaml.Scalar

namespace Phrasebook.Data.Yaml

inductive Token where
  /-- `%` at the start of a line, with the words after it. -/
  | directive (name : List Char) (words : List (List Char))
  | documentStart
  | documentEnd
  | blockList
  | blockMapping
  | blockEnd
  | flowList
  | flowListEnd
  | flowMapping
  | flowMappingEnd
  | item
  | comma
  | key
  | value
  | alias (name : List Char)
  | anchor (name : List Char)
  /-- A type, with the handle that stands for its beginning. -/
  | tag (handle : Option (List Char)) (suffix : List Char)
  | scalar (plain : Bool) (text : List Char)
  deriving DecidableEq, Repr

structure KeyPlace where
  tokens : Nat
  cursor : Cursor
  required : Bool
  deriving DecidableEq, Repr

structure Lexing where
  cursor : Cursor
  tokens : List Token
  /-- The column of the innermost block collection; before any, it is -1. -/
  indent : Int
  outerIndents : List Int
  /-- Where a key may have begun in the innermost flow collection, or outside all. -/
  keyPlace : Option KeyPlace
  outerPlaces : List (Option KeyPlace)
  keyAllowed : Bool

namespace Lexing

abbrev Step := Lexing → Except Fault Lexing

def start (text : List Char) : Lexing := ⟨.start text, [], -1, [], none, [], true⟩

def inFlow (state : Lexing) : Bool := !state.outerPlaces.isEmpty

def column (state : Lexing) : Int := state.cursor.column

def emit (token : Token) (state : Lexing) : Lexing :=
  { state with tokens := state.tokens ++ [token] }

def skip (n : Nat) (state : Lexing) : Lexing :=
  { state with cursor := state.cursor.advance n }

def allowKey (allowed : Bool) (state : Lexing) : Lexing := { state with keyAllowed := allowed }

def read {α : Type} (reader : Reader α) (state : Lexing) : Except Fault (α × Lexing) := do
  let (value, cursor) ← reader state.cursor
  return (value, { state with cursor })

def longestKey : Nat := 1024

def isStale (here : Cursor) (place : KeyPlace) : Bool :=
  place.cursor.line != here.line || longestKey < here.index - place.cursor.index

def giveUp (place : Option KeyPlace) : Except Fault (Option KeyPlace) :=
  if place.any (·.required) then .error .malformed else .ok none

def giveUpStale (here : Cursor) (place : Option KeyPlace) : Except Fault (Option KeyPlace) :=
  if place.any (isStale here) then giveUp place else .ok place

def dropStalePlaces : Step := fun state => do
  let keyPlace ← giveUpStale state.cursor state.keyPlace
  let outerPlaces ← state.outerPlaces.mapM (giveUpStale state.cursor)
  return { state with keyPlace, outerPlaces }

def dropPlace : Step := fun state => do
  return { state with keyPlace := ← giveUp state.keyPlace }

def savePlace : Step := fun state => do
  if state.keyAllowed then
    let state ← state.dropPlace
    let required := !state.inFlow && state.indent == state.column
    return { state with keyPlace := some ⟨state.tokens.length, state.cursor, required⟩ }
  else return state

def unwindFrom (column : Int) : List Int → Lexing → Lexing
  | outer, state =>
    if state.indent ≤ column then { state with outerIndents := outer }
    else match outer with
      | [] => { state.emit .blockEnd with indent := -1, outerIndents := [] }
      | indent :: outer => unwindFrom column outer { state.emit .blockEnd with indent }

def unwind (column : Int) (state : Lexing) : Lexing :=
  if state.inFlow then state else unwindFrom column state.outerIndents state

/-- Opens a block collection at a column, with its token at the given place, unless one is open
    there. -/
def openBlock (token : Token) (column : Int) (place : Nat) (state : Lexing) : Lexing :=
  if state.indent < column then
    { state with
      indent := column
      outerIndents := state.indent :: state.outerIndents
      tokens := state.tokens.insertIdx place token }
  else state

def skipGaps : Nat → Lexing → Lexing
  | 0, state => state
  | n + 1, state =>
    let blanks := (state.cursor.rest.takeWhile (· == ' ')).length
    let state := state.skip blanks
    let comment :=
      if state.cursor.rest.head? == some '#' then
        (state.cursor.rest.takeWhile (!isBreak ·)).length
      else 0
    let state := state.skip comment
    if state.cursor.rest.head?.any isBreak then
      skipGaps n ((state.skip 1).allowKey (state.keyAllowed || !state.inFlow))
    else state

def endBlocks : Step := fun state => do
  return (← (state.unwind (-1)).dropPlace).allowKey false

def isNameChar (c : Char) : Bool := c.isAlphanum || c == '-' || c == '_'

def word : Reader (List Char) := do
  let word ← Reader.takeWhile fun c => !(c == ' ' || isBreak c)
  let _ ← Reader.takeWhile (· == ' ')
  return word

def wordsOfLine : Nat → Reader (List (List Char))
  | 0 => return []
  | n + 1 => do
    match ← Reader.peek? with
    | none => return []
    | some c =>
      if c == '#' || isBreak c then return []
      else
        let first ← word
        return first :: (← wordsOfLine n)

def directive : Reader Token := do
  Reader.skip 1
  let name ← Reader.takeWhile isNameChar
  if name.isEmpty || !(← Reader.peek?).all (fun c => c == ' ' || isBreak c) then Reader.fail
  else
    let _ ← Reader.takeWhile (· == ' ')
    let words ← wordsOfLine ((← Reader.rest).length + 1)
    Reader.lineEnd
    return .directive name words

def name : Reader (List Char) := do
  Reader.skip 1
  let name ← Reader.takeWhile isNameChar
  let next ← Reader.peek?
  if name.isEmpty || !(endsWord next || next.any "?:,]\x7d%@\x60".toList.contains) then
    Reader.fail
  else return name

def isTagChar (c : Char) : Bool :=
  c.isAlphanum || "-;/?:@&=+$,_.!~*'()[]%".toList.contains c

def tagSuffix : Reader (List Char) := do
  let suffix ← Reader.takeWhile isTagChar
  if suffix.isEmpty then Reader.fail else return suffix

def tagHandle : Reader (List Char) := do
  let text := (← Reader.rest).drop 1
  let name := text.takeWhile isNameChar
  if (text.drop name.length).head? == some '!' then
    Reader.skip (name.length + 2)
    return '!' :: name ++ ['!']
  else Reader.fail

def tag : Reader Token := do
  let text := (← Reader.rest).drop 1
  let token ← match text.head? with
    | some '<' => do
      Reader.skip 2
      let suffix ← tagSuffix
      if (← Reader.peek?) == some '>' then
        Reader.skip 1
        pure (Token.tag none suffix)
      else Reader.fail
    | next =>
      if endsWord next then do
        Reader.skip 1
        pure (Token.tag none ['!'])
      else if (text.takeWhile fun c => !(c == ' ' || isBreak c)).contains '!' then do
        let handle ← tagHandle
        pure (Token.tag (some handle) (← tagSuffix))
      else do
        Reader.skip 1
        pure (Token.tag (some ['!']) (← tagSuffix))
  if (← Reader.peek?).all fun c => c == ' ' || isBreak c then return token else Reader.fail

def nodeToken (reader : Reader Token) : Step := fun state => do
  let state ← state.savePlace
  let (token, state) ← (state.allowKey false).read reader
  return state.emit token

def plain : Step := fun state => do
  let state ← state.savePlace
  let ((text, broken), state) ← state.read (Plain.read state.inFlow (state.indent + 1))
  return (state.allowKey broken).emit (.scalar true text)

def block : Step := fun state => do
  let state ← (state.allowKey true).dropPlace
  let (text, state) ← state.read (Block.read state.indent)
  return state.emit (.scalar false text)

def marker (token : Token) : Step := fun state => do
  return ((← state.endBlocks).skip 3).emit token

def openFlow (token : Token) : Step := fun state => do
  let state ← state.savePlace
  let state :=
    { state with keyPlace := none, outerPlaces := state.keyPlace :: state.outerPlaces }
  return ((state.allowKey true).skip 1).emit token

def closeFlow (token : Token) : Step := fun state => do
  let state ← state.dropPlace
  match state.outerPlaces with
  | [] => throw .malformed
  | keyPlace :: outerPlaces =>
    return (({ state with keyPlace, outerPlaces }.allowKey false).skip 1).emit token

def comma : Step := fun state => do
  return ((← (state.allowKey true).dropPlace).skip 1).emit .comma

def openHere (token : Token) : Step := fun state =>
  if state.inFlow then .ok state
  else if state.keyAllowed then .ok (state.openBlock token state.column state.tokens.length)
  else .error .malformed

def item : Step := fun state => do
  let state ← state.openHere .blockList
  return ((← (state.allowKey true).dropPlace).skip 1).emit .item

def key : Step := fun state => do
  let state ← state.openHere .blockMapping
  return ((← (state.allowKey !state.inFlow).dropPlace).skip 1).emit .key

def value : Step := fun state => do
  match state.keyPlace with
  | some place =>
    let state :=
      { state with keyPlace := none, tokens := state.tokens.insertIdx place.tokens .key }
    let state :=
      if state.inFlow then state
      else state.openBlock .blockMapping place.cursor.column place.tokens
    return ((state.allowKey false).skip 1).emit .value
  | none =>
    let state ← state.openHere .blockMapping
    return ((← (state.allowKey !state.inFlow).dropPlace).skip 1).emit .value

def beginsPlain (inFlow : Bool) (c : Char) (next : Option Char) : Bool :=
  !(endsWord (some c) || "-?:,[]\x7b\x7d#&*!|>'\"%@\x60".toList.contains c) ||
    (!endsWord next && (c == '-' || (!inFlow && (c == '?' || c == ':'))))

def stepAt (state : Lexing) (c : Char) (text : List Char) : Step :=
  let next := text.head?
  let ends := endsWord next
  if state.cursor.column == 0 && c == '%' then fun state => do
    let (token, state) ← (← state.endBlocks).read directive
    return state.emit token
  else if state.cursor.column == 0 && beginsMarker (c :: text) then
    marker (if c == '-' then .documentStart else .documentEnd)
  else match c with
    | '[' => openFlow .flowList
    | '\x7b' => openFlow .flowMapping
    | ']' => closeFlow .flowListEnd
    | '\x7d' => closeFlow .flowMappingEnd
    | ',' => comma
    | '*' => nodeToken (Token.alias <$> name)
    | '&' => nodeToken (Token.anchor <$> name)
    | '!' => nodeToken tag
    | '\'' => nodeToken (Token.scalar false <$> InQuotes.read)
    | '"' => nodeToken (Token.scalar false <$> InQuotes.read)
    | _ =>
      if c == '-' && ends then item
      else if c == '?' && (state.inFlow || ends) then key
      else if c == ':' && (state.inFlow || ends) then value
      else if (c == '|' || c == '>') && !state.inFlow then block
      else if beginsPlain state.inFlow c next then plain
      else fun _ => .error .malformed

def run : Nat → Lexing → Except Fault (List Token)
  | 0, _ => .error .malformed
  | n + 1, state => do
    let state := state.skipGaps (state.cursor.rest.length + 1)
    let state ← state.dropStalePlaces
    let state := state.unwind state.column
    match state.cursor.rest with
    | [] => return (← state.endBlocks).tokens
    | c :: text => run n (← state.stepAt c text state)

end Lexing

def tokens (text : List Char) : Except Fault (List Token) :=
  if text.all isPrintable then
    let state := Lexing.start text
    let state := if text.head? == some byteOrderMark then state.skip 1 else state
    state.run (text.length + 1)
  else .error .malformed

end Phrasebook.Data.Yaml
