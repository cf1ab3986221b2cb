import Phrasebook.Text.Split

namespace Phrasebook.CommandLine

structure OptionSpec (κ : Type) where
  key : κ
  names : List String
  takesValue : Bool

inductive UsageFault where
  | unknownOption (name : String)
  | missingValue (name : String)
  | needlessValue (name : String)
  | unknownCommand (name : String)
  | missingCommand
  | missingArgument
  | extraArgument (argument : String)
  deriving DecidableEq, Repr

/-- Options as they were given, with their values if they have any, and what is no option. -/
structure Arguments (κ : Type) where
  options : List (κ × Option String)
  positional : List String

namespace Arguments

variable {κ : Type} [BEq κ]

def isGiven (arguments : Arguments κ) (key : κ) : Bool := arguments.options.any (·.1 == key)

def value? (arguments : Arguments κ) (key : κ) : Option String :=
  (arguments.options.reverse.lookup key).join

end Arguments

variable {κ : Type}

def findOption (specs : List (OptionSpec κ)) (name : String) : Option (OptionSpec κ) :=
  specs.find? (·.names.contains name)

/-- What one word comes to: options, and one at the end whose value is in the next word. -/
structure WordOptions (κ : Type) where
  options : List (κ × Option String)
  pending : Option (OptionSpec κ × String)

def shortOptions (specs : List (OptionSpec κ)) : List Char → Except UsageFault (WordOptions κ)
  | [] => .ok ⟨[], none⟩
  | letter :: rest =>
    let name := String.ofList ['-', letter]
    match findOption specs name with
    | none => .error (.unknownOption name)
    | some spec =>
      if spec.takesValue then
        if rest.isEmpty then .ok ⟨[], some (spec, name)⟩
        else .ok ⟨[(spec.key, some (String.ofList rest))], none⟩
      else do
        let more ← shortOptions specs rest
        return { more with options := (spec.key, none) :: more.options }

def isLongName (name : List Char) : Bool := ['-', '-'].isPrefixOf name

def wordOptions (specs : List (OptionSpec κ)) (word : List Char) :
    Except UsageFault (WordOptions κ) :=
  let name := word.takeWhile (· != '=')
  let value := word.drop (name.length + 1)
  let attached := name.length < word.length
  let text := String.ofList name
  match if isLongName name then findOption specs text else none with
  | some spec =>
    if spec.takesValue then
      if attached then .ok ⟨[(spec.key, some (String.ofList value))], none⟩
      else .ok ⟨[], some (spec, text)⟩
    else if attached then .error (.needlessValue text)
    else .ok ⟨[(spec.key, none)], none⟩
  | none =>
    if isLongName word then .error (.unknownOption text) else shortOptions specs (word.drop 1)

def isOptionWord (word : List Char) : Bool := word.head? == some '-' && 1 < word.length

/-- Reads words up to the end. Two hyphens by themselves end the options; so does the first word that
    is none, unless options may be mixed with other words. -/
def readArguments (specs : List (OptionSpec κ)) (mixed : Bool) :
    List String → Except UsageFault (Arguments κ)
  | [] => .ok ⟨[], []⟩
  | word :: rest =>
    if word == "--" then .ok ⟨[], rest⟩
    else if isOptionWord word.toList then do
      let found ← wordOptions specs word.toList
      match found.pending with
      | none =>
        let more ← readArguments specs mixed rest
        return { more with options := found.options ++ more.options }
      | some (spec, name) =>
        match rest with
        | [] => throw (.missingValue name)
        | value :: rest =>
          let more ← readArguments specs mixed rest
          return { more with options := found.options ++ (spec.key, some value) :: more.options }
    else if mixed then do
      let more ← readArguments specs mixed rest
      return { more with positional := word :: more.positional }
    else .ok ⟨[], word :: rest⟩

end Phrasebook.CommandLine
