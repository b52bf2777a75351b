import TokenForest.Command.Run

/-!
# The program

The outer layer of the command: it loads the files that a run may look at, runs, writes what the run
has changed, and prints what it has printed.  Everything that is decided is decided by the run.
-/

namespace TokenForest

/-- What stands at a path on disk, if anything that can be opened does. -/
def lookOnDisk (path : Path) : IO (Option FileEntry) := do
  try
    let content ← IO.FS.readBinFile path.text
    return some (.file content.toList)
  catch error =>
    match error with
    | .inappropriateType _ 21 _ => return some .directory
    | _ => return none

/-- Adds what stands at a path on disk, and at the directories on the way there. -/
def loadPath (files : FileTree) (path : Path) : IO FileTree := do
  let mut loaded := files
  for stage in path.stages do
    match loaded.place stage, ← lookOnDisk stage with
    | .ok place, some entry => loaded := loaded.put place entry
    | _, _ => pure ()
  return loaded

/-- Runs the command on disk and answers its exit code. -/
def runOnDisk [Text.CharacterNames] (arguments : List String) : IO UInt32 := do
  let files ← (Command.paths arguments).foldlM loadPath {}
  let outcome := Command.run files arguments
  for (place, content) in files.changes outcome.files do
    IO.FS.writeBinFile (Path.ofPlace place).text content.toByteArray
  IO.print outcome.stdout
  IO.eprint outcome.stderr
  match outcome.ending with
  | .returned code | .exited code => return code.toUInt32
  | .aborted failure =>
    IO.eprintln failure.message
    return 1

end TokenForest

open scoped TokenForest.Text.CharacterNames in
/-- Runs the command with the arguments of the process. -/
def main (arguments : List String) : IO UInt32 := TokenForest.runOnDisk arguments
