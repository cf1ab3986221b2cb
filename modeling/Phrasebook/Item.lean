import Phrasebook.Text.Letter

namespace Phrasebook

/-- Contents of the pairs of braces in a text, from the left. The first argument is the name being
    read, latest letter first; a pair of braces with nothing inside counts for nothing. -/
def placeholdersFrom : Option Wording → Wording → List Wording
  | _, [] => []
  | none, c :: text => placeholdersFrom (if c == .char '\x7b' then some [] else none) text
  | some name, c :: text =>
    if c == .char '\x7d' then
      if name.isEmpty then placeholdersFrom none text
      else name.reverse :: placeholdersFrom none text
    else placeholdersFrom (some (c :: name)) text

def placeholders (text : Wording) : List Wording := placeholdersFrom none text

def firstOccurrences {α : Type} [BEq α] (items : List α) : List α :=
  items.foldl (fun seen a => if seen.contains a then seen else seen ++ [a]) []

def paramsOfKey (key : Wording) : List Wording := firstOccurrences (placeholders key)

structure Item where
  key : Wording
  file : String
  line : Int
  column : Int
  hasParams : Bool
  params : List Wording
  hasParams_eq : hasParams = !params.isEmpty
  deriving DecidableEq, Repr

namespace Item

def create (key : Wording) (file : String) (line column : Int) (declared : Option (List Wording)) :
    Item :=
  let params := match declared with
    | some (p :: ps) => p :: ps
    | _ => paramsOfKey key
  ⟨key, file, line, column, !params.isEmpty, params, rfl⟩

def dedupe : List Item → List Item :=
  List.foldl (fun kept item => if kept.any (·.key == item.key) then kept else kept ++ [item]) []

end Item

structure Occurrence where
  file : String
  line : Int
  column : Int
  deriving DecidableEq, Repr

structure Merged where
  key : Wording
  occurrences : List Occurrence
  hasParams : Bool
  params : List Wording
  hasParams_eq : hasParams = !params.isEmpty
  deriving DecidableEq, Repr

namespace Merged

def start (key : Wording) : Merged := ⟨key, [], false, [], rfl⟩

def takeParams (merged : Merged) (item : Item) : Merged :=
  if item.hasParams && !merged.hasParams then
    ⟨merged.key, merged.occurrences, item.hasParams, item.params, item.hasParams_eq⟩
  else merged

def add (merged : Merged) (item : Item) : Merged :=
  { merged.takeParams item with
    occurrences := merged.occurrences ++ [⟨item.file, item.line, item.column⟩] }

def insert (merged : List Merged) (item : Item) : List Merged :=
  if merged.any (·.key == item.key) then
    merged.map fun m => if m.key == item.key then m.add item else m
  else merged ++ [(start item.key).add item]

def ofItems (items : List Item) : List Merged := items.foldl insert []

end Merged

end Phrasebook
