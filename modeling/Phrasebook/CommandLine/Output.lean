namespace Phrasebook.CommandLine

inductive Colour where
  | red
  | green
  | yellow
  | cyan
  deriving DecidableEq, Repr

def Colour.code : Colour → Nat
  | red => 31
  | green => 32
  | yellow => 33
  | cyan => 36

inductive Word where
  | text (text : String)
  | elapsed
  deriving DecidableEq, Repr

structure Span where
  colour : Option Colour
  words : List Word
  deriving DecidableEq, Repr

/-- The spans of a line, without the line break at its end. -/
abbrev Line := List Span

namespace Line

def plain (text : String) : Line := [⟨none, [.text text]⟩]

def coloured (colour : Colour) (text : String) : Line := [⟨some colour, [.text text]⟩]

end Line

def Word.render (elapsed : String) : Word → String
  | .text content => content
  | .elapsed => elapsed

def escape : String := "\x1b["

def Span.render (colours : Bool) (elapsed : String) (span : Span) : String :=
  let text := String.join (span.words.map (Word.render elapsed))
  match span.colour with
  | some colour =>
    if colours then escape ++ toString colour.code ++ "m" ++ text ++ escape ++ "0m" else text
  | none => text

def Line.render (colours : Bool) (elapsed : String) (line : Line) : String :=
  String.join (line.map (Span.render colours elapsed)) ++ "\n"

def renderLines (colours : Bool) (elapsed : String) (lines : List Line) : String :=
  String.join (lines.map (Line.render colours elapsed))

end Phrasebook.CommandLine
