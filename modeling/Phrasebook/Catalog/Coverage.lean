import Phrasebook.Catalog.Basic
import Phrasebook.Text.Blank

namespace Phrasebook.Catalog

def translates (target : Catalog) (key : String) : Bool :=
  match target.get? key with
  | some text => text != "" && text != key
  | none => false

def missing (source target : Catalog) : List String :=
  source.keys.filter fun key => !target.translates key

def unused (source target : Catalog) : List String :=
  target.keys.filter fun key => !source.contains key

structure Coverage where
  total : Nat
  translated : Nat
  missing : Nat
  percentage : Nat
  deriving DecidableEq, Repr

/-- A share in percent, rounded to the nearest whole number, halves upwards. Nothing out of nothing
    is everything. -/
def percentage (part whole : Nat) : Nat :=
  if whole = 0 then 100 else (200 * part + whole) / (2 * whole)

def coverage (source target : Catalog) : Coverage :=
  let total := source.size
  let translated := source.keys.countP target.translates
  ⟨total, translated, total - translated, percentage translated total⟩

def clean (dropUntranslated : Bool) (catalog : Catalog) : Catalog :=
  catalog.filter fun (key, text) =>
    !text.toList.all Text.isBlank && !(dropUntranslated && text == key)

end Phrasebook.Catalog
