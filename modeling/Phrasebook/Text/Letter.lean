namespace Phrasebook

/-- A letter of a text in memory: a character, or a surrogate on its own, which no encoding can write. -/
inductive Letter where
  | char (c : Char)
  | surrogate (place : Fin 0x800)
  deriving DecidableEq, Repr

namespace Letter

def codePoint : Letter → Nat
  | char c => c.toNat
  | surrogate place => 0xD800 + place

def ofCodePoint (n : Nat) : Letter :=
  if n.isValidChar then char (Char.ofNat n) else surrogate (Fin.ofNat 0x800 (n - 0xD800))

def char? : Letter → Option Char
  | char c => some c
  | surrogate _ => none

def isHighSurrogate (n : Nat) : Bool := 0xD800 ≤ n && n < 0xDC00

def isLowSurrogate (n : Nat) : Bool := 0xDC00 ≤ n && n < 0xE000

def shown (n : Nat) : Char :=
  if n.isValidChar then Char.ofNat n else '\uFFFD'

/-- Code points in a form that can be written: the two halves of a pair make the character they denote, and
    any other surrogate is replaced. -/
def joinSurrogates : List Nat → List Char
  | high :: low :: rest =>
    if isHighSurrogate high && isLowSurrogate low then
      shown (0x10000 + (high - 0xD800) * 0x400 + (low - 0xDC00)) :: joinSurrogates rest
    else shown high :: joinSurrogates (low :: rest)
  | [n] => [shown n]
  | [] => []

end Letter

/-- A text as it is in memory, where a string of a script may come to letters that cannot be written. -/
abbrev Wording := List Letter

namespace Wording

def ofChars (text : List Char) : Wording := text.map .char

def ofString (text : String) : Wording := ofChars text.toList

def text? (wording : Wording) : Option String := (wording.mapM Letter.char?).map String.ofList

def le (a b : Wording) : Bool := (List.compareLex (compareOn Letter.codePoint) a b).isLE

end Wording

instance : Coe String Wording := ⟨Wording.ofString⟩

end Phrasebook
