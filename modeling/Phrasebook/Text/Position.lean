import Phrasebook.Text.Utf8

namespace Phrasebook.Text

structure Position where
  line : Nat
  column : Nat
  deriving DecidableEq, Repr

def afterLast {α : Type} [BEq α] (mark : α) (items : List α) : List α :=
  (items.reverse.takeWhile (· != mark)).reverse

def Position.ofIndex (text : List Char) (index : Nat) : Position :=
  let before := text.take index
  let lineStart := before.length - (afterLast '\n' before).length
  ⟨before.count '\n' + 1, index - lineStart + 1⟩

/-- Position of a byte offset; an offset inside a character counts that character as begun. -/
def Position.ofOffset (source : List UInt8) (offset : Nat) : Position :=
  let before := source.take offset
  ⟨before.count 10 + 1, (decodeLossy (afterLast 10 before)).length + 1⟩

/-- Position in a document of a place whose position in a section is known, the section starting
    at `base`. Only the section's first line is shifted sideways. -/
def Position.within (base inner : Position) : Position :=
  ⟨base.line + inner.line - 1,
    if inner.line = 1 then inner.column + (base.column - 1) else inner.column⟩

end Phrasebook.Text
