import Phrasebook.Catalog.Reconcile
import Phrasebook.Catalog.Sort
import Phrasebook.Data.Json
import Phrasebook.Log
import Phrasebook.Project.Tree

namespace Phrasebook.Catalog

open Data

inductive Fault where
  | file (fault : FileFault)
  | malformed (error : Json.Error)
  | notObject
  | notString (key : String)
  deriving DecidableEq, Repr

structure FaultAt where
  path : String
  fault : Fault
  deriving DecidableEq, Repr

def FaultAt.message (error : FaultAt) : String :=
  match error.fault with
  | .file _ => error.path
  | .malformed mistake => mistake.message
  | .notObject => error.path ++ " does not contain a JSON object"
  | .notString key => error.path ++ ": value of \"" ++ key ++ "\" is not a string"

def lastValues (members : List (Data × Data)) : List (String × Data) :=
  let named := members.filterMap fun (key, value) => key.string?.map (·, value)
  (firstOccurrences (named.map (·.1))).filterMap fun key =>
    (named.reverse.lookup key).map (key, ·)

/-- The entries of members that are all strings, or the first key whose value is none. -/
def stringEntries : List (String × Data) → Except Fault (List Entry)
  | [] => .ok []
  | (key, value) :: rest =>
    match value.string? with
    | some text => return (key, text) :: (← stringEntries rest)
    | none => .error (.notString key)

def ofData : Data → Except Fault Catalog
  | .mapping members => ofList <$> stringEntries (lastValues members)
  | _ => .error .notObject

def ofText (text : List Char) : Except Fault Catalog := do
  ofData (← (Json.parse text).mapError .malformed)

/-- How a catalog is laid out: one entry a line, or everything without white space. -/
structure Layout where
  opening : List Char
  between : List Char
  colon : List Char
  closing : List Char

def Layout.pretty : Layout := ⟨"\n  ".toList, ",\n  ".toList, ": ".toList, "\n".toList⟩

def Layout.compact : Layout := ⟨[], [','], [':'], []⟩

def renderEntry (layout : Layout) (entry : Entry) : List Char :=
  Json.quote entry.1.toList ++ layout.colon ++ Json.quote entry.2.toList

def renderEntries (layout : Layout) : List Entry → List Char
  | [] => []
  | [entry] => renderEntry layout entry
  | entry :: rest => renderEntry layout entry ++ layout.between ++ renderEntries layout rest

def render (pretty : Bool) (catalog : Catalog) : List Char :=
  let layout := if pretty then Layout.pretty else Layout.compact
  if catalog.entries.isEmpty then ['\x7b', '\x7d']
  else '\x7b' :: layout.opening ++ renderEntries layout catalog.entries ++ layout.closing ++ ['\x7d']

def fileText (sorted pretty : Bool) (catalog : Catalog) : List Char :=
  (if sorted then catalog.sort else catalog).render pretty ++ ['\n']

def read (tree : Tree) (path : String) : Except FaultAt Catalog :=
  match tree.readText (Path.ofText path) with
  | .ok text => (ofText text).mapError (⟨path, ·⟩)
  | .error .missing => .ok empty
  | .error fault => .error ⟨path, .file fault⟩

def write (tree : Tree) (path : String) (sorted pretty : Bool) (catalog : Catalog) :
    Except FaultAt Tree :=
  (tree.write (Path.ofText path) (Text.encode (catalog.fileText sorted pretty))).mapError
    fun fault => ⟨path, .file fault⟩

def origin : String := "i18nsync.updater"

def Mismatch.record (mismatch : Mismatch) : Record := ⟨.warning, origin, mismatch.message⟩

def updateRecord (path : String) (keys : Nat) : Record :=
  ⟨.info, origin, "Updated " ++ path ++ " (" ++ toString keys ++ " keys)"⟩

/-- A catalog file brought up to date, and its number of keys. -/
structure Update where
  path : String
  keys : Nat
  deriving DecidableEq, Repr

/-- Where a run over several files stands: what it has done so far is kept if it fails. -/
structure UpdateRun where
  tree : Tree
  log : List Record
  outcome : Except FaultAt (List Update)

/-- Brings the targets up to date one after the other, until one cannot be read or written. -/
def updateTargets (options : ReconcileOptions) (source : Catalog) :
    List String → Tree → UpdateRun
  | [], tree => ⟨tree, [], .ok []⟩
  | path :: rest, tree =>
    match read tree path with
    | .error fault => ⟨tree, [], .error fault⟩
    | .ok target =>
      let reconciled := reconcileFully options source target
      let log := reconciled.mismatches.map Mismatch.record
      match write tree path true true reconciled.result with
      | .error fault => ⟨tree.makeWay (Path.ofText path), log, .error fault⟩
      | .ok tree =>
        let keys := reconciled.result.size
        let run := updateTargets options source rest tree
        ⟨run.tree, log ++ updateRecord path keys :: run.log, run.outcome.map (⟨path, keys⟩ :: ·)⟩

def updateFiles (options : ReconcileOptions) (source : String) (targets : List String)
    (tree : Tree) : UpdateRun :=
  match read tree source with
  | .error fault => ⟨tree, [], .error fault⟩
  | .ok catalog => updateTargets options catalog targets tree

end Phrasebook.Catalog
