import Phrasebook.Syntax.Node

namespace Phrasebook.Syntax

structure Cursor where
  rest : List Char
  offset : Nat
  nodes : List Node

inductive Step (α : Type) where
  | read (value : α) (cursor : Cursor)
  | stuck (cursor : Cursor)

def Parse (σ α : Type) := σ → Cursor → Step α

namespace Parse

variable {σ α β : Type}

instance : Monad (Parse σ) where
  pure a := fun _ c => .read a c
  bind p f := fun s c =>
    match p s c with
    | .read a c => f a s c
    | .stuck c => .stuck c

def settings : Parse σ σ := fun s c => .read s c

def withSettings (f : σ → σ) (p : Parse σ α) : Parse σ α := fun s c => p (f s) c

def fail : Parse σ α := fun _ c => .stuck c

def rest : Parse σ (List Char) := fun _ c => .read c.rest c

def require (holds : Bool) : Parse σ Unit := if holds then pure () else fail

def orElse (p q : Parse σ α) : Parse σ α := fun s c =>
  match p s c with
  | .read a c => .read a c
  | .stuck _ => q s c

instance : OrElse (Parse σ α) := ⟨fun p q => orElse p (q ())⟩

/-- The second parse, from where the first began, if the first gets stuck; if both do, the place where
    the first did. -/
def orElseFirst (p q : Parse σ α) : Parse σ α := fun s c =>
  match p s c with
  | .read a c => .read a c
  | .stuck first =>
    match q s c with
    | .read a c => .read a c
    | .stuck _ => .stuck first

def attempt (p : Parse σ Unit) : Parse σ Bool :=
  orElse (do p; pure true) (pure false)

def optional (p : Parse σ Unit) : Parse σ Unit := do
  let _ ← attempt p

def test (p : Parse σ Bool) : Parse σ Bool := fun s c =>
  match p s c with
  | .read b _ => .read b c
  | .stuck _ => .read false c

def firstOf : List (Parse σ Unit) → Parse σ Unit
  | [] => fail
  | [p] => p
  | p :: ps => orElse p (firstOf ps)

def repeatAlong : List Char → Parse σ Bool → Parse σ Unit
  | [], _ => pure ()
  | _ :: text, p => do
    if ← p then repeatAlong text p else pure ()

/-- Runs a parse until it answers `false`. Each round but the last reads a character, so the text
    bounds their number. -/
def many (p : Parse σ Bool) : Parse σ Unit := fun s c =>
  repeatAlong ('\n' :: c.rest) p s c

def drop (n : Nat) : Parse σ Unit := fun _ c =>
  .read () { c with rest := c.rest.drop n, offset := c.offset + Text.byteLength (c.rest.take n) }

def leaf (kind : String) (named : Bool) (n : Nat) : Parse σ Unit := fun _ c =>
  let stop := c.offset + Text.byteLength (c.rest.take n)
  .read () ⟨c.rest.drop n, stop, Node.leaf kind named c.offset stop :: c.nodes⟩

def assume (kind : String) : Parse σ Unit := fun _ c =>
  .read () { c with nodes := Node.assumed kind c.offset :: c.nodes }

def branch (kind : String) (p : Parse σ Unit) : Parse σ Unit := fun s c =>
  match p s { c with nodes := [] } with
  | .read _ r => .read () { r with nodes := Node.branch kind c.offset r.nodes.reverse :: c.nodes }
  | .stuck r => .stuck { r with nodes := r.nodes ++ c.nodes }

/-- The latest node, in the given role, and the nodes a parse completes after it become the
    children of a new node. -/
def around (kind role : String) (p : Parse σ Unit) : Parse σ Unit := fun s c =>
  match c.nodes with
  | [] => .stuck c
  | first :: before =>
    match p s { c with nodes := [{ first with field := role }] } with
    | .read _ r => .read () { r with nodes := Node.branch kind c.offset r.nodes.reverse :: before }
    | .stuck r => .stuck { r with nodes := r.nodes ++ before }

def role (name : String) (p : Parse σ Unit) : Parse σ Unit := do
  p
  fun _ c =>
    match c.nodes with
    | [] => .read () c
    | last :: before => .read () { c with nodes := { last with field := name } :: before }

def asKind (kind : String) (p : Parse σ Unit) : Parse σ Unit := do
  p
  fun _ c =>
    match c.nodes with
    | [] => .read () c
    | last :: before => .read () { c with nodes := { last with kind } :: before }

def lastKind : Parse σ String := fun _ c =>
  .read ((c.nodes.head?.map (·.kind)).getD "") c

end Parse

end Phrasebook.Syntax
