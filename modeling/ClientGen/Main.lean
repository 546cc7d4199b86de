/-
  ClientGen/Main.lean
  ===================
  **The program.**

  The world of the commands is the disk and the standard streams; everything else is
  decided elsewhere.
-/
import ClientGen.CommandLine.Command

namespace ClientGen.CommandLine

/-! ### The disk -/

def entryOf (path : String) : IO.FS.DirEntry :=
  ⟨".", path⟩

/-- The parts of the paths of all files below a directory. -/
partial def filesOnDisk (path : String) (front : List String) : IO (List (List String)) := do
  let entries ← (entryOf path).path.readDir
  let found ← entries.toList.mapM fun entry => do
    let name := entry.fileName
    if ← entry.path.isDir then
      filesOnDisk (Client.continuePath path name) (front ++ [name])
    else return [front ++ [name]]
  return found.flatten

/-- Work on the disk whose failure is told in its own words. -/
def guarded {α : Type} (work : IO α) : CommandM IO α :=
  ExceptT.mk do
    try return .ok (← work)
    catch e => return .error (toString e)

/-- The path leads to something that is no directory. -/
def isFileOnDisk (path : String) : IO Bool := do
  let found := (entryOf path).path
  return (← found.pathExists) && !(← found.isDir)

def diskWorld : World IO where
  isFile := isFileOnDisk
  isDirectory path := (entryOf path).path.isDir
  readFile path := guarded (IO.FS.readFile path)
  filesBelow path := filesOnDisk path []
  createDirectories path := guarded (IO.FS.createDirAll path)
  writeFile path content := guarded (IO.FS.writeFile path content)
  print text := IO.print text
  printError text := IO.eprint text

end ClientGen.CommandLine

def main (arguments : List String) : IO UInt32 := do
  let status ← ClientGen.CommandLine.runCommandLine ClientGen.CommandLine.diskWorld arguments
  return status.toUInt32
