namespace Phrasebook

/-- The members of a class, as ranges with both ends included, or everything but them. -/
structure WildcardClass where
  negated : Bool
  ranges : List (Char × Char)
  deriving DecidableEq, Repr

namespace WildcardClass

def accepts (set : WildcardClass) (c : Char) : Bool :=
  (set.ranges.any fun (first, last) => first ≤ c && c ≤ last) != set.negated

/-- The parts of the inside of a class between the hyphens that make ranges: a hyphen makes one
    unless it stands at either end or within two characters after another one that does. The
    characters of the part being read come latest first; `free` of them may not be a hyphen. -/
def chunksFrom : (part : List Char) → (free : Nat) → List Char → List (List Char)
  | part, _, [] => [part.reverse]
  | part, free + 1, c :: text => chunksFrom (c :: part) free text
  | part, 0, c :: text =>
    if c == '-' then
      if text.isEmpty then [(c :: part).reverse]
      else part.reverse :: chunksFrom [] 2 text
    else chunksFrom (c :: part) 0 text

def chunks (inside : List Char) : List (List Char) :=
  chunksFrom [] (if inside.head? == some '!' then 2 else 1) inside

def isEmptyRange (part next : List Char) : Bool :=
  match part.getLast?, next.head? with
  | some last, some first => first < last
  | _, _ => false

/-- Joins the parts between which a range is empty, leaving out its ends, from the right. -/
def dropEmptyRanges : List (List Char) → List (List Char)
  | [] => []
  | part :: rest =>
    match dropEmptyRanges rest with
    | next :: others =>
      if isEmptyRange part next then (part.dropLast ++ next.drop 1) :: others
      else part :: next :: others
    | [] => [part]

inductive Mark where
  | char (c : Char)
  | range
  deriving DecidableEq, Repr

def marks : List (List Char) → List Mark
  | [] => []
  | [part] => part.map .char
  | part :: rest => part.map Mark.char ++ .range :: marks rest

def rangesOf : List Mark → List (Char × Char)
  | .char a :: .range :: .char b :: rest => (a, b) :: rangesOf rest
  | .char a :: rest => (a, a) :: rangesOf rest
  | .range :: rest => ('-', '-') :: rangesOf rest
  | [] => []

/-- The class with the given inside. An exclamation mark in front negates what follows it. -/
def ofInside (inside : List Char) : WildcardClass :=
  match marks (dropEmptyRanges (chunks inside)) with
  | .char '!' :: rest => ⟨true, rangesOf rest⟩
  | all => ⟨false, rangesOf all⟩

end WildcardClass

inductive Wildcard where
  | char (c : Char)
  | any
  | run
  | class (set : WildcardClass)
  deriving DecidableEq, Repr

namespace Wildcard

/-- The inside of a class and the pattern after its closing bracket, which may not come first. -/
def classInside? (text : List Char) : Option (List Char × List Char) :=
  let negation := (text.take 1).filter (· == '!')
  let first := ((text.drop negation.length).take 1).filter (· == ']')
  let lead := negation ++ first
  let inside := lead ++ (text.drop lead.length).takeWhile (· != ']')
  match text.drop inside.length with
  | _ :: rest => some (inside, rest)
  | [] => none

/-- The wildcards of a pattern; the next `covered` characters belong to a class already read. -/
def parseFrom : (covered : Nat) → List Char → List Wildcard
  | _, [] => []
  | covered + 1, _ :: text => parseFrom covered text
  | 0, c :: text =>
    if c == '*' then .run :: parseFrom 0 text
    else if c == '?' then .any :: parseFrom 0 text
    else if c == '[' then
      match classInside? text with
      | some (inside, _) => .class (.ofInside inside) :: parseFrom (inside.length + 1) text
      | none => .char c :: parseFrom 0 text
    else .char c :: parseFrom 0 text

def parse (pattern : List Char) : List Wildcard := parseFrom 0 pattern

def anyEnd (p : List Char → Bool) : List Char → Bool
  | [] => p []
  | c :: text => p (c :: text) || anyEnd p text

def accepts : List Wildcard → List Char → Bool
  | [], text => text.isEmpty
  | .run :: pattern, text => anyEnd (accepts pattern) text
  | .any :: pattern, _ :: text => accepts pattern text
  | .char d :: pattern, c :: text => d == c && accepts pattern text
  | .class set :: pattern, c :: text => set.accepts c && accepts pattern text
  | _ :: _, [] => false

end Wildcard

def matchesWildcards (pattern text : List Char) : Bool :=
  Wildcard.accepts (Wildcard.parse pattern) text

end Phrasebook
