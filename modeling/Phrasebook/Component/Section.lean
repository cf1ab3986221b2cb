import Phrasebook.Text.Blank
import Phrasebook.Text.Word

namespace Phrasebook.Component

open Text

inductive Tag where
  | script
  | style
  deriving DecidableEq, Repr

def Tag.name : Tag → List Char
  | script => "script".toList
  | style => "style".toList

/-- Whether a character is the given small letter in some form: capital, dotted, dotless or long. -/
def sameLetter (letter c : Char) : Bool :=
  c.toLower == letter || (letter == 'i' && (c == '\u0130' || c == '\u0131')) ||
    (letter == 's' && c == '\u017F')

def afterWord? : List Char → List Char → Option (List Char)
  | [], text => some text
  | _ :: _, [] => none
  | letter :: word, c :: text => if sameLetter letter c then afterWord? word text else none

def anySuffix (begins : List Char → Bool) : List Char → Bool
  | [] => begins []
  | c :: text => begins (c :: text) || anySuffix begins text

def isQuote (c : Char) : Bool := c == '"' || c == '\''

/-- Whether a text goes on with an equals sign and a word in quotes, of either kind at either end. -/
def isAssigned (sameWord : List Char → List Char → Option (List Char)) (word text : List Char) :
    Bool :=
  match text.dropWhile isBlank with
  | '=' :: text =>
    match text.dropWhile isBlank with
    | opening :: text =>
      isQuote opening && ((sameWord word text).any fun rest => rest.head?.any isQuote)
    | [] => false
  | _ => false

/-- Whether the attributes of a tag go on with the marker of a module script: the context `module`,
    or `module` as an attribute by itself. -/
def beginsModuleMarker (attributes : List Char) : Bool :=
  ((afterWord? "context".toList attributes).any (isAssigned afterWord? "module".toList)) ||
    match attributes with
    | [] => false
    | c :: text =>
      isBlank c && ((afterWord? "module".toList text).any fun rest =>
        rest.head?.all fun next => isBlank next || next == '/' || next == '=')

def marksModule (attributes : List Char) : Bool := anySuffix beginsModuleMarker attributes

/-- Whether the attributes declare the script as typed; unlike tags, this is read to the letter. -/
def declaresTypesFrom : (before : Option Char) → List Char → Bool
  | _, [] => false
  | before, c :: text =>
    (before.all (!isWord ·) && (("lang".toList.isPrefixOf? (c :: text)).any
      (isAssigned List.isPrefixOf? "ts".toList))) || declaresTypesFrom (some c) text

def declaresTypes (attributes : List Char) : Bool := declaresTypesFrom none attributes

/-- A block with its tags: the attributes of the opening tag, and the content between the tags. -/
structure Block where
  tag : Tag
  attributes : List Char
  content : List Char
  deriving DecidableEq, Repr

namespace Block

def contentStart (block : Block) : Nat := block.tag.name.length + block.attributes.length + 2

def length (block : Block) : Nat :=
  block.contentStart + block.content.length + block.tag.name.length + 3

def afterClosing? (tag : Tag) (text : List Char) : Option (List Char) := do
  let text ← ['<', '/'].isPrefixOf? text
  let text ← afterWord? tag.name text
  ['>'].isPrefixOf? text

def beforeClosing? (tag : Tag) : List Char → Option (List Char)
  | [] => none
  | c :: text =>
    if (afterClosing? tag (c :: text)).isSome then some []
    else (beforeClosing? tag text).map (c :: ·)

def at? (tag : Tag) (text : List Char) : Option Block := do
  let text ← ['<'].isPrefixOf? text
  let text ← afterWord? tag.name text
  if text.head?.any isWord then none
  else
    let attributes := text.takeWhile (· != '>')
    let text ← ['>'].isPrefixOf? (text.drop attributes.length)
    let content ← beforeClosing? tag text
    return ⟨tag, attributes, content⟩

/-- The first block that is accepted, and where it starts. Blocks inside a refused one count. -/
def firstFrom? (tag : Tag) (accept : Block → Bool) (index : Nat) :
    List Char → Option (Nat × Block)
  | [] => none
  | c :: text =>
    match (at? tag (c :: text)).filter accept with
    | some block => some (index, block)
    | none => firstFrom? tag accept (index + 1) text

def first? (tag : Tag) (accept : Block → Bool) (text : List Char) : Option (Nat × Block) :=
  firstFrom? tag accept 0 text

/-- Rewrites the text of every block, from the left and without overlap. The block found last covers
    the next `covered` characters. -/
def rewriteFrom (tag : Tag) (f : List Char → List Char) : (covered : Nat) → List Char → List Char
  | _, [] => []
  | covered + 1, _ :: text => rewriteFrom tag f covered text
  | 0, c :: text =>
    match at? tag (c :: text) with
    | some block => f ((c :: text).take block.length) ++ rewriteFrom tag f (block.length - 1) text
    | none => c :: rewriteFrom tag f 0 text

def rewrite (tag : Tag) (f : List Char → List Char) (text : List Char) : List Char :=
  rewriteFrom tag f 0 text

end Block

/-- A part of a component. Its start and end are those of the block, tags included. -/
structure Section where
  content : List Char
  start : Nat
  stop : Nat
  contentStart : Nat
  typed : Bool
  deriving DecidableEq, Repr

def Section.ofBlock (found : Nat × Block) : Section :=
  let (start, block) := found
  ⟨block.content, start, start + block.length, start + block.contentStart,
    block.tag == .script && declaresTypes block.attributes⟩

structure Sections where
  moduleScript : Option Section
  script : Option Section
  template : Option Section
  style : Option Section
  deriving DecidableEq, Repr

def templateText (text : List Char) : List Char :=
  (text |> Block.rewrite .script fun _ => []) |> Block.rewrite .style fun _ => []

/-- The sections of a component: its first module script, its first other script, its first style
    block, and what is left, unless that is blank. -/
def Sections.ofText (text : List Char) : Sections where
  moduleScript := (Block.first? .script (marksModule ·.attributes) text).map Section.ofBlock
  script := (Block.first? .script (!marksModule ·.attributes) text).map Section.ofBlock
  template :=
    let template := templateText text
    if template.all isBlank then none else some ⟨template, 0, text.length, 0, false⟩
  style := (Block.first? .style (fun _ => true) text).map Section.ofBlock

def blank (text : List Char) : List Char := text.map fun c => if c == '\n' then c else ' '

/-- A component with its script and style blocks blanked out; every offset stays in place. -/
def maskBlocks (text : List Char) : List Char :=
  Block.rewrite .style blank (Block.rewrite .script blank text)

end Phrasebook.Component
