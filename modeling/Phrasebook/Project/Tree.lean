import Phrasebook.Project.Path
import Phrasebook.Text.Utf8

namespace Phrasebook

inductive FileFault where
  | missing
  | isFolder
  | notFolder
  | exists
  | undecodable (defect : Text.Defect)
  deriving DecidableEq, Repr

def FileFault.message : FileFault → String
  | missing => "No such file or directory"
  | isFolder => "Is a directory"
  | notFolder => "Not a directory"
  | .exists => "File exists"
  | undecodable defect => defect.message

structure Tree where
  files : List (Path × List UInt8)
  folders : List Path
  deriving DecidableEq, Repr

namespace Tree

def empty : Tree := ⟨[], []⟩

def content? (tree : Tree) (path : Path) : Option (List UInt8) := tree.files.lookup path

def isFile (tree : Tree) (path : Path) : Bool := (tree.content? path).isSome

def isInside (path folder : Path) : Bool := folder.isPrefixOf path && path != folder

def isFolder (tree : Tree) (path : Path) : Bool :=
  path.isEmpty || tree.folders.any path.isPrefixOf || tree.files.any fun file => isInside file.1 path

def children (tree : Tree) (folder : Path) : List String :=
  ((tree.files.map (·.1) ++ tree.folders).filterMap fun path =>
    if isInside path folder then path[folder.length]? else none).eraseDups

/-- Follows the parts of a path from a folder. All but the last have to lead to folders. -/
def locateFrom (tree : Tree) (here : Path) : List String → Except FileFault Path
  | [] => .ok here
  | part :: parts =>
    let next := here.enter part
    if parts.isEmpty || tree.isFolder next then tree.locateFrom next parts
    else if tree.isFile next then .error .notFolder
    else .error .missing

def locate (tree : Tree) (path : Path) : Except FileFault Path := tree.locateFrom [] path

def read (tree : Tree) (path : Path) : Except FileFault (List UInt8) := do
  let place ← tree.locate path
  if tree.isFolder place then throw .isFolder
  else
    match tree.content? place with
    | some bytes => return bytes
    | none => throw .missing

def readText (tree : Tree) (path : Path) : Except FileFault (List Char) := do
  let text ← (Text.decode (← tree.read path)).mapError .undecodable
  return Text.unifyNewlines text

def putFile (path : Path) (bytes : List UInt8) :
    List (Path × List UInt8) → List (Path × List UInt8)
  | [] => [(path, bytes)]
  | file :: files =>
    if file.1 == path then (path, bytes) :: files else file :: putFile path bytes files

def put (tree : Tree) (path : Path) (bytes : List UInt8) : Tree :=
  { tree with files := putFile path bytes tree.files }

/-- Follows the parts of a path from a folder, taking the folders on it that do not exist as made;
    `made` says whether some were made before. -/
def settleFrom (tree : Tree) (made : Bool) (here : Path) : List String → Except FileFault Path
  | [] => .ok here
  | part :: parts =>
    let next := here.enter part
    if tree.isFile next then .error (if made || parts.isEmpty then .exists else .notFolder)
    else tree.settleFrom (made || !tree.isFolder next) next parts

/-- The folders that the parts of a path lead through, up to the first file in the way. -/
def wayFrom (tree : Tree) (here : Path) : List String → List Path
  | [] => []
  | part :: parts =>
    let next := here.enter part
    if tree.isFile next then [] else next :: tree.wayFrom next parts

/-- The tree with the folders made that lead to a file, as far as no file stands in the way. -/
def makeWay (tree : Tree) (path : Path) : Tree :=
  { tree with
    folders := tree.folders ++
      (tree.wayFrom [] path.dropLast).filter fun folder => !tree.isFolder folder }

/-- The tree with a file written, and the folders made that lead to it. If this fails, the folders
    made on the way stay: the tree is then `makeWay`. -/
def write (tree : Tree) (path : Path) (bytes : List UInt8) : Except FileFault Tree := do
  let folder ← tree.settleFrom false [] path.dropLast
  match path.getLast? with
  | none => throw .isFolder
  | some name =>
    let place := Path.enter folder name
    let tree := tree.makeWay path
    if tree.isFolder place then throw .isFolder else return tree.put place bytes

/-- The places where two trees differ as to files, with what the second tree holds there. -/
def changes (before after : Tree) : List (Path × Option (List UInt8)) :=
  let places := (before.files ++ after.files).map (·.1) |>.eraseDups
  (places.filter fun path => before.content? path != after.content? path).map fun path =>
    (path, after.content? path)

end Tree

end Phrasebook
