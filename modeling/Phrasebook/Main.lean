import Phrasebook.CommandLine.Run
import Phrasebook.Component.Grammar
import Phrasebook.Script.Tree
import Std.Time

namespace Phrasebook.Main

def installation : CommandLine.Installation :=
  ⟨[grammarsModule], .byRules, fun language => some language.grammar⟩

partial def readFolder (tree : Tree) (folder : String) (path : Path) : IO Tree := do
  let entries ← (← IO.FS.realPath folder).readDir
  if entries.isEmpty then return { tree with folders := tree.folders ++ [path] }
  else
    entries.foldlM (fun tree entry => do
      let inside := folder ++ "/" ++ entry.fileName
      let path := path ++ [entry.fileName]
      if ← entry.path.isDir then readFolder tree inside path
      else
        let bytes ← IO.FS.readBinFile inside
        return { tree with files := tree.files ++ [(path, bytes.toList)] }) tree

def writeChange (path : Path) (bytes : List UInt8) : IO Unit := do
  IO.FS.createDirAll (Path.toText path.dropLast)
  IO.FS.writeBinFile path.toText ⟨bytes.toArray⟩

def now : IO Moment := do
  let moment ← Std.Time.PlainDateTime.now
  return ⟨moment.year.toInt.toNat, moment.month.val.toNat, moment.day.val.toNat,
    moment.hour.val.toNat, moment.minute.val.toNat, moment.second.val.toNat,
    moment.nanosecond.val.toNat / 1000000⟩

def secondsText (milliseconds : Nat) : String :=
  let tenths := (milliseconds + 50) / 100
  toString (tenths / 10) ++ "." ++ toString (tenths % 10)

end Phrasebook.Main

open Phrasebook in
def main (words : List String) : IO UInt32 := do
  let place := (← IO.currentDir).toString
  let start ← IO.monoMsNow
  let tree ← Main.readFolder .empty "." []
  let outcome := CommandLine.run Main.installation tree place words
  for folder in outcome.tree.folders do IO.FS.createDirAll (Path.toText folder)
  for (path, bytes) in tree.changes outcome.tree do
    if let some bytes := bytes then Main.writeChange path bytes
  let output ← IO.getStdout
  let errors ← IO.getStderr
  let elapsed := Main.secondsText ((← IO.monoMsNow) - start)
  output.putStr (CommandLine.renderLines (← output.isTty) elapsed outcome.output)
  errors.putStr (outcome.errorText (← Main.now))
  if let some failure := outcome.failure then errors.putStr (failure.message ++ "\n")
  return outcome.status.toUInt32
