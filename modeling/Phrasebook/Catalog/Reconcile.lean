import Phrasebook.Catalog.Basic
import Phrasebook.Item

namespace Phrasebook.Catalog

structure ReconcileOptions where
  flush : Bool
  replaceUntranslated : Bool
  /-- Mark the texts whose parameters differ from those of the source. -/
  validateParams : Bool
  deriving DecidableEq, Repr

namespace ReconcileOptions

def default : ReconcileOptions := ⟨false, false, false⟩

end ReconcileOptions

structure ReconcileStats where
  added : Nat
  removed : Nat
  unchanged : Nat
  total : Nat
  deriving DecidableEq, Repr

/-- A text whose parameters differ from those of the source. -/
structure Mismatch where
  key : String
  text : String
  deriving DecidableEq, Repr

def Mismatch.message (mismatch : Mismatch) : String :=
  "Parameter mismatch for \"" ++ mismatch.key ++ "\": \"" ++ mismatch.text ++ "\""

/-- A reconciled catalog, and the texts newly marked in it, in the order of the source. -/
structure Reconciled where
  result : Catalog
  stats : ReconcileStats
  mismatches : List Mismatch
  deriving DecidableEq, Repr

def mismatchMarker : String := "[PARAM_MISMATCH] "

def isMarked (text : String) : Bool := mismatchMarker.toList.isPrefixOf text.toList

def mark (text : String) : String := mismatchMarker ++ text

def hasPlaceholders (text : String) : Bool := !(placeholders text).isEmpty

def sortedParams (text : String) : List Wording := (placeholders text).mergeSort Wording.le

def sameParams (a b : String) : Bool := sortedParams a == sortedParams b

namespace Reconciled

def start (options : ReconcileOptions) (source target : Catalog) : Reconciled :=
  let kept := if options.flush then target.filter fun entry => source.contains entry.1 else target
  ⟨kept, ⟨0, target.size - kept.size, 0, 0⟩, []⟩

def keep (state : Reconciled) : Reconciled :=
  { state with stats.unchanged := state.stats.unchanged + 1 }

def step (options : ReconcileOptions) (state : Reconciled) (entry : Entry) : Reconciled :=
  let (key, text) := entry
  let state := { state with stats.total := state.stats.total + 1 }
  match state.result.get? key with
  | none =>
    { state with result := state.result.insert key text, stats.added := state.stats.added + 1 }
  | some existing =>
    if options.replaceUntranslated && existing == key then
      { state with result := state.result.insert key text }
    else if options.validateParams && hasPlaceholders key then
      if isMarked existing || sameParams text existing then state.keep
      else
        { state with
          result := state.result.insert key (mark existing)
          mismatches := state.mismatches ++ [⟨key, existing⟩] }
    else state.keep

end Reconciled

def reconcileFully (options : ReconcileOptions) (source target : Catalog) : Reconciled :=
  source.entries.foldl (Reconciled.step options) (Reconciled.start options source target)

def reconcile (options : ReconcileOptions) (source target : Catalog) : Catalog :=
  (reconcileFully options source target).result

/-- Reconciles with several sources at once. Where they share a key, the last of them gives the text. -/
def reconcileAll (options : ReconcileOptions) (sources : List Catalog) (target : Catalog) :
    Reconciled := reconcileFully options (merge sources) target

end Phrasebook.Catalog
