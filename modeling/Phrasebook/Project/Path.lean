import Phrasebook.Text.Split

namespace Phrasebook

abbrev Path := List String

namespace Path

def rootPart : String := "/"

def rawParts (text : String) : List String := (Text.splitAt '/' text.toList).map String.ofList

def isAbsolute (text : String) : Bool := text.toList.head? == some '/'

def ofText (text : String) : Path :=
  (if isAbsolute text then [rootPart] else []) ++
    (rawParts text).filter fun part => part != "" && part != "."

def relativeText (parts : List String) : String :=
  String.ofList (Text.joinWith '/' (parts.map (·.toList)))

/-- Where one part leads to from a folder. The working folder is taken for its own parent. -/
def enter (here : Path) (part : String) : Path :=
  if part == ".." then here.dropLast else here ++ [part]

def resolve (path : Path) : Path := path.foldl enter []

def toText : Path → String
  | [] => "."
  | part :: parts =>
    if part == rootPart then rootPart ++ relativeText parts else relativeText (part :: parts)

def name (path : Path) : String := path.getLast?.getD ""

/-- The last dot of a name and what follows it; a dot at either end of a name counts for nothing. -/
def suffixOf (name : List Char) : List Char :=
  let tail := (name.reverse.takeWhile (· != '.')).reverse
  if tail.isEmpty || tail.length + 1 ≥ name.length then [] else '.' :: tail

def suffix (path : Path) : String := String.ofList (suffixOf path.name.toList)

end Path

end Phrasebook
