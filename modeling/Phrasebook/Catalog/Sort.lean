import Phrasebook.Catalog.Basic
import Phrasebook.Text.BaseLetter
import Phrasebook.Text.Case

namespace Phrasebook.Catalog

open Text

structure CollationKey where
  base : List Char
  folded : List Char
  swapped : List Char
  deriving DecidableEq, Repr

namespace CollationKey

def ofText (text : List Char) : CollationKey where
  base := Case.fold (BaseLetter.ofText text)
  folded := Case.fold text
  swapped := Case.swap text

def compareTexts : List Char → List Char → Ordering
  | [], [] => .eq
  | [], _ :: _ => .lt
  | _ :: _, [] => .gt
  | a :: as, b :: bs => (compare a.toNat b.toNat).then (compareTexts as bs)

def compare (a b : CollationKey) : Ordering :=
  (compareTexts a.base b.base).then <|
    (compareTexts a.folded b.folded).then (compareTexts a.swapped b.swapped)

def le (a b : CollationKey) : Bool := (a.compare b).isLE

end CollationKey

def collationKey (key : String) : CollationKey := CollationKey.ofText key.toList

/-- Entries in the order of their collation keys; those with equal ones keep their order. -/
def sortEntries (entries : List Entry) : List Entry :=
  let keyed := entries.map fun entry => (collationKey entry.1, entry)
  (keyed.mergeSort fun a b => a.1.le b.1).map (·.2)

theorem sortEntries_perm (entries : List Entry) : (sortEntries entries).Perm entries := by
  have h := (List.mergeSort_perm (entries.map fun entry => (collationKey entry.1, entry))
    fun a b => a.1.le b.1).map (·.2)
  simpa [sortEntries, Function.comp_def] using h

def sort (catalog : Catalog) : Catalog :=
  ⟨sortEntries catalog.entries,
    ((sortEntries_perm catalog.entries).map Prod.fst).nodup_iff.2 catalog.nodup⟩

end Phrasebook.Catalog
