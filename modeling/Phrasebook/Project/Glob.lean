import Phrasebook.Project.Tree
import Phrasebook.Project.Wildcard

namespace Phrasebook

inductive GlobFault where
  | empty
  | absolute
  | noParts
  | onlySlash
  /-- Two stars together with something else in one part. -/
  | mixedStars
  deriving DecidableEq, Repr

def GlobFault.message : GlobFault → String
  | empty => "Unacceptable pattern: ''"
  | absolute => "Non-relative patterns are unsupported"
  | noParts => "The pattern has no parts"
  | onlySlash => "The pattern has no parts before its last slash"
  | mixedStars => "Invalid pattern: '**' can only be an entire path component"

inductive GlobPart where
  | name (name : String)
  | wildcards (pattern : List Wildcard)
  | anyFolders
  /-- The end of a pattern with a slash after its last part. -/
  | nothing
  deriving DecidableEq, Repr

namespace GlobPart

def hasStars : List Char → Bool
  | '*' :: '*' :: _ => true
  | _ :: text => hasStars text
  | [] => false

def isWildcard (part : List Char) : Bool := part.any fun c => c == '*' || c == '?' || c == '['

def ofText (part : String) : Except GlobFault GlobPart :=
  let text := part.toList
  if part == "**" then .ok .anyFolders
  else if hasStars text then .error .mixedStars
  else if isWildcard text then .ok (.wildcards (Wildcard.parse text))
  else .ok (.name part)

end GlobPart

namespace Glob

def parse (pattern : String) : Except GlobFault (List GlobPart) := do
  if pattern.isEmpty then throw .empty
  if Path.isAbsolute pattern then throw .absolute
  let parts ← (Path.ofText pattern).mapM GlobPart.ofText
  if pattern.toList.getLast? == some '/' then
    if parts.isEmpty then throw .onlySlash else return parts ++ [.nothing]
  else if parts.isEmpty then throw .noParts
  else return parts

def leading (path : Path) : List Path := (List.range (path.length + 1)).map path.take

def foldersWithin (tree : Tree) (folder : Path) : List Path :=
  let all := (tree.files.flatMap fun file => leading file.1.dropLast) ++
    tree.folders.flatMap leading
  folder :: (all.eraseDups.filter fun path => Tree.isInside path folder)

/-- A place in the tree, and the parts that lead to it as the pattern goes. -/
structure Found where
  place : Path
  parts : List String
  deriving DecidableEq, Repr

namespace Found

def enter (found : Found) (name : String) : Found :=
  ⟨if name == ".." then found.place.dropLast else found.place ++ [name], found.parts ++ [name]⟩

end Found

def select (tree : Tree) : List GlobPart → Found → List Found
  | [], here => [here]
  | .nothing :: _, here => [here]
  | .name name :: rest, here =>
    let next := here.enter name
    if tree.isFolder next.place || (rest.isEmpty && tree.isFile next.place) then
      select tree rest next
    else []
  | .wildcards pattern :: rest, here =>
    ((tree.children here.place).filter fun name =>
      Wildcard.accepts pattern name.toList &&
        (rest.isEmpty || tree.isFolder (here.place ++ [name]))).flatMap fun name =>
          select tree rest (here.enter name)
  | .anyFolders :: rest, here =>
    (foldersWithin tree here.place).flatMap fun folder =>
      select tree rest ⟨folder, here.parts ++ folder.drop here.place.length⟩

def run (tree : Tree) (root : Path) (pattern : String) : Except GlobFault (List Found) := do
  let parts ← parse pattern
  return if tree.isFolder root then select tree parts ⟨root, []⟩ else []

end Glob

end Phrasebook
