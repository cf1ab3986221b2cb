import Phrasebook.Project.Braces
import Phrasebook.Project.Glob

namespace Phrasebook.Selection

def startsWithDot (part : String) : Bool := part.toList.head? == some '.'

def isHidden (path : Path) : Bool := path.any startsWithDot

def namesHidden (pattern : String) : Bool := (Path.rawParts pattern).any startsWithDot

def isExcluded (path : String) (excludes : List String) : Bool :=
  excludes.any fun raw =>
    (Braces.expand raw.toList).any fun pattern => matchesWildcards pattern path.toList

def selectOne (tree : Tree) (root : Path) (excludes : List String) (pattern : String) :
    Except GlobFault (List Path) := do
  let found ← Glob.run tree root pattern
  return (found.filter fun f =>
    tree.isFile f.place && (namesHidden pattern || !isHidden f.parts) &&
      !isExcluded (Path.toText f.parts) excludes).map (·.parts)

def lePath : Path → Path → Bool
  | [], _ => true
  | _ :: _, [] => false
  | a :: as, b :: bs => a < b || (a == b && lePath as bs)

def enumerate (tree : Tree) (root : String) (includes excludes : List String) :
    Except GlobFault (List Path) := do
  let place := (Path.ofText root).resolve
  let patterns := includes.flatMap fun raw => (Braces.expand raw.toList).map String.ofList
  let found ← patterns.mapM (selectOne tree place excludes)
  return (found.flatten.eraseDups.mergeSort lePath).map (place ++ ·)

end Phrasebook.Selection
