import Phrasebook.Data.Yaml.Node
import Phrasebook.Data.Yaml.Type

namespace Phrasebook.Data.Yaml

def standardName? (type : List Char) : Option String :=
  (standardPrefix.isPrefixOf? type).map String.ofList

def isFreeOr (name : String) (type : Option (List Char)) : Bool :=
  type.all fun type => type == freeType || standardName? type == some name

def ScalarType.ofNode? (type : Option (List Char)) (plain : Bool) (text : List Char) :
    Option ScalarType :=
  match type with
  | none => some (if plain then .ofText text else .text)
  | some type =>
    if type == freeType then some (.ofText text) else (standardName? type).bind ScalarType.ofName?

def isMergeKey : Node → Bool
  | .scalar type plain text => ScalarType.ofNode? type plain text == some .merge
  | _ => false

def sameKey : Data → Data → Bool
  | .null, .null => true
  | .bool a, .bool b => a == b
  | .integer a, .integer b => a == b
  | .decimal a _, .decimal b _ => a == b
  | .string a, .string b => a == b
  | .other _ a, .other _ b => a == b
  | _, _ => false

def isKey : Data → Bool
  | .list _ => false
  | .mapping _ => false
  | _ => true

def put (key value : Data) : List (Data × Data) → List (Data × Data)
  | [] => [(key, value)]
  | (first, old) :: rest =>
    if sameKey first key then (first, value) :: rest else (first, old) :: put key value rest

def distinct (entries : List (Data × Data)) : List (Data × Data) :=
  entries.foldl (fun entries (key, value) => put key value entries) []

def mergedEntries : Data → Except Fault (List (Data × Data))
  | .mapping entries => .ok entries
  | .list items => do
    let all ← items.reverse.mapM fun item =>
      match item with
      | .mapping entries => .ok entries
      | _ => Except.error Fault.malformed
    return all.flatten
  | _ => .error .malformed

def scalarData (type : Option (List Char)) (plain : Bool) (text : List Char) :
    Except Fault Data :=
  match ScalarType.ofNode? type plain text with
  | some scalarType => scalarType.valueOf text
  | none => .error .malformed

def keyData (node : Node) (data : Except Fault Data) : Except Fault Data :=
  match node with
  | .scalar none true ['='] => .ok (.string "=")
  | _ => data

def listData (type : Option (List Char)) (items : List Data) : Except Fault Data :=
  if isFreeOr "seq" type || isFreeOr "omap" type || isFreeOr "pairs" type then .ok (.list items)
  else .error .malformed

def mappingData (type : Option (List Char)) (entries : List (Data × Data)) : Except Fault Data :=
  if isFreeOr "map" type then .ok (.mapping entries)
  else if isFreeOr "set" type then .ok (.other "set" "")
  else .error .malformed

structure Entries where
  merged : List (Data × Data)
  own : List (Data × Data)

mutual

def Node.toData : Node → Except Fault Data
  | .scalar type plain text => scalarData type plain text
  | .list type items => do listData type (← Node.toDataAll items)
  | .mapping type entries => do
    let entries ← Node.toEntries entries
    mappingData type (distinct (entries.merged ++ entries.own))

def Node.toDataAll : List Node → Except Fault (List Data)
  | [] => .ok []
  | node :: rest => do return (← node.toData) :: (← Node.toDataAll rest)

def Node.toEntries : List (Node × Node) → Except Fault Entries
  | [] => .ok ⟨[], []⟩
  | (key, value) :: rest =>
    if isMergeKey key then do
      let merged ← mergedEntries (← value.toData)
      let entries ← Node.toEntries rest
      return ⟨merged ++ entries.merged, entries.own⟩
    else do
      let key ← keyData key key.toData
      if !isKey key then throw .malformed
      let value ← value.toData
      let entries ← Node.toEntries rest
      return ⟨entries.merged, (key, value) :: entries.own⟩

end

def parse (text : List Char) : Except Fault Data := do
  match ← Node.ofTokens (← tokens text) with
  | some root => root.toData
  | none => return .null

end Phrasebook.Data.Yaml
