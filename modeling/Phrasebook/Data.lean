namespace Phrasebook

inductive Data where
  | null
  | bool (value : Bool)
  | integer (value : Int)
  /-- A number with a fraction or an exponent, as it is written; `zero` if it is nought. -/
  | decimal (text : String) (zero : Bool)
  | string (value : String)
  | list (items : List Data)
  | mapping (entries : List (Data × Data))
  | other (type text : String)
  deriving Inhabited

namespace Data

def isGiven : Data → Bool
  | null => false
  | bool value => value
  | integer value => value != 0
  | decimal _ zero => !zero
  | string value => !value.isEmpty
  | list items => !items.isEmpty
  | mapping entries => !entries.isEmpty
  | other _ _ => true

def typeName : Data → String
  | null => "NoneType"
  | bool _ => "bool"
  | integer _ => "int"
  | decimal _ _ => "float"
  | string _ => "str"
  | list _ => "list"
  | mapping _ => "dict"
  | other type _ => type

def string? : Data → Option String
  | string value => some value
  | _ => none

end Data

end Phrasebook
