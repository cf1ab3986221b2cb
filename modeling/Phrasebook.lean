import Phrasebook.Main
import Phrasebook.Proofs.Catalog.Entries
import Phrasebook.Proofs.Catalog.Reconcile
import Phrasebook.Proofs.Catalog.Rendering
import Phrasebook.Proofs.Project.Tree
import Phrasebook.Proofs.Project.Write
import Phrasebook.Proofs.Catalog.File
import Phrasebook.Proofs.Extraction.Plugin
import Phrasebook.Proofs.Extraction.Run
import Phrasebook.Proofs.Catalog.Settled
import Phrasebook.Proofs.Catalog.Update
import Phrasebook.Proofs.Attempts
import Phrasebook.Proofs.Call
import Phrasebook.Proofs.Component.Plugin
import Phrasebook.Proofs.Text.Position
import Phrasebook.Proofs.Firsts
import Phrasebook.Proofs.Convention.Dialect
import Phrasebook.Proofs.Component.Scan
import Phrasebook.Proofs.Project.Glob
import Phrasebook.Proofs.Extraction.Selection
import Phrasebook.Proofs.CommandLine.Act
import Phrasebook.Proofs.CommandLine.Extract
import Phrasebook.Proofs.Catalog.Marking
import Phrasebook.Proofs.Catalog.Repeat
import Phrasebook.Proofs.Component.Block
import Phrasebook.Proofs.Component.Section
import Phrasebook.Proofs.Literal
import Phrasebook.Proofs.Extraction.Script
import Phrasebook.Proofs.Extraction.Returns
import Phrasebook.Proofs.Catalog.Accounts
import Phrasebook.Proofs.Extraction.Defaults
import Phrasebook.Proofs.Script.Session
import Phrasebook.Proofs.Text.Case
import Phrasebook.Proofs.Catalog.Collation
import Phrasebook.Proofs.Catalog.Canonical
import Phrasebook.Proofs.Catalog.Merge
import Phrasebook.Proofs.Catalog.Coverage
import Phrasebook.Proofs.Syntax.Place
import Phrasebook.Proofs.Syntax.Diagnostic
import Phrasebook.Proofs.Component.Region
import Phrasebook.Proofs.CommandLine.Update
import Phrasebook.Proofs.Literal.Pieces
import Phrasebook.Proofs.Component.Attributes
import Phrasebook.Proofs.Component.Mask
import Phrasebook.Proofs.Component.Split
import Phrasebook.Proofs.Component.Typed
import Phrasebook.Proofs.Literal.Parts
import Phrasebook.Proofs.Call.Reading
import Phrasebook.Proofs.Call.Alike
import Phrasebook.Proofs.Call.Parentheses
import Phrasebook.Proofs.Call.Params
import Phrasebook.Proofs.Convention.Pattern
import Phrasebook.Proofs.Literal.Normal
import Phrasebook.Proofs.Convention.Finds
import Phrasebook.Proofs.Convention.Search
import Phrasebook.Proofs.Convention.Boundary
import Phrasebook.Proofs.Convention.Keys
import Phrasebook.Proofs.Convention.Lowered
import Phrasebook.Proofs.Component.Lowered
import Phrasebook.Proofs.Merged
import Phrasebook.Proofs.Extraction.Folder
import Phrasebook.Proofs.Project.Language
import Phrasebook.Proofs.Extraction.Hidden
import Phrasebook.Proofs.Extraction.Registry
