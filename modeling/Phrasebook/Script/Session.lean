import Phrasebook.Script.Source

namespace Phrasebook.Script

open Syntax

structure Request where
  text : List Char
  typed : Bool
  elements : Bool
  /-- Answer with what can be recovered instead of refusing a text with mistakes. -/
  recovers : Bool
  cached : Bool
  file : Option String

inductive Answer where
  | tree (parsed : SyntaxTree)
  | recovered (result : Recovered)
  | refused (error : SyntaxError)

namespace Answer

def tree? : Answer → Option SyntaxTree
  | tree parsed => some parsed
  | recovered result => result.tree
  | refused _ => none

def diagnostics : Answer → List Diagnostic
  | recovered result => result.diagnostics
  | _ => []

end Answer

namespace Request

def grammar (request : Request) : Grammar := Grammar.choose request.typed request.elements

def answer (request : Request) (tree : SyntaxTree) : Answer :=
  if request.recovers then .recovered (tree.recover request.elements)
  else
    match tree.check request.elements request.file with
    | .ok tree => .tree tree
    | .error error => .refused error

end Request

inductive Action where
  | clear
  | parse (request : Request)

/-- What a request is answered with, and the number of the step that parsed the tree for it. -/
structure Outcome where
  answer : Answer
  origin : Nat

/-- Which tree is handed out, if one is: trees are told apart by the steps that parsed them. -/
def Outcome.handed? (outcome : Outcome) : Option Nat :=
  outcome.answer.tree?.map fun _ => outcome.origin

structure Session where
  cache : Cache
  /-- How many steps have been made. -/
  made : Nat

namespace Session

def start : Session := ⟨.empty, 0⟩

def step (parsers : Parsers) (session : Session) : Action → Option Outcome × Session
  | .clear => (none, ⟨.empty, session.made + 1⟩)
  | .parse request =>
    let ((tree, origin), cache) :=
      session.cache.tree request.cached request.grammar request.text session.made parsers
    (some ⟨request.answer tree, origin⟩, ⟨cache, session.made + 1⟩)

def run (parsers : Parsers) (session : Session) : List Action → List (Option Outcome) × Session
  | [] => ([], session)
  | action :: rest =>
    let (outcome, next) := session.step parsers action
    let (outcomes, last) := next.run parsers rest
    (outcome :: outcomes, last)

end Session

end Phrasebook.Script
