import ClientGen.Command.Run

/-! # The program

Commands are carried out on a picture of the files below the working directory, and what they
create or change is written back.
-/

namespace ClientGen

/-- Picture the directory `path`, which is the place `place`, with all that it holds. -/
partial def readDirectory (path : String) (place : Place) (files : Files) : IO Files := do
  let mut files := files
  for entry in ← (System.mkFilePath [path]).readDir do
    let inner := Path.join path entry.fileName
    let place := place ++ [entry.fileName]
    if ← entry.path.isDir then
      files ← readDirectory inner place (files.put place .directory)
    else
      files := files.put place (.file (← IO.FS.readBinFile inner))
  return files

/-- Write back what a command has created or changed, directories before what they hold. -/
def writeChange (change : Place × FileEntry) : IO Unit := do
  let path := "/".intercalate change.1
  match change.2 with
  | .directory => IO.FS.createDirAll path
  | .file content => IO.FS.writeBinFile path content

end ClientGen

open ClientGen in
/-- Carry out the command line and give its exit code. -/
def main (args : List String) : IO UInt32 := do
  let files ← readDirectory "." [] {}
  let (code, execution) := Command.runLine args files
  for change in files.changes execution.files do
    writeChange change
  IO.print (Text.ofLines execution.output)
  IO.eprint (Text.ofLines execution.complaints)
  return code.toUInt32
