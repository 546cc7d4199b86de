/-
  ClientGen/CommandLine/Input.lean
  ================================
  **Inputs of commands.**

  A file holds one table.  A directory stands for all tables below it, merged in the
  order of their paths.
-/
import ClientGen.CommandLine.World
import ClientGen.Declaration.Reader
import ClientGen.Options

namespace ClientGen.CommandLine

open ClientGen.Client ClientGen.Text

variable {m : Type → Type} [Monad m]

/-- The options that the command line gives. -/
def readOptions (pairs : List String) : Except String Options :=
  match Options.ofPairs pairs with
  | .ok options => .ok options
  | .error e => .error ("Invalid option: " ++ e.message)

def loadFailure (path reason : String) : String :=
  "Failed to load " ++ path ++ ": " ++ reason

def readTable (w : World m) (path : String) : CommandM m SymbolTable := do
  let text ← (w.readFile path).adapt fun reason => loadFailure path ("IO error: " ++ reason)
  match SymbolTable.read? text with
  | some t => return t
  | none => throw (loadFailure path "JSON error: not a table of declarations")

def readTables (w : World m) (t : SymbolTable) : List String → CommandM m SymbolTable
  | [] => return t
  | path :: paths => do
    let next ← readTable w path
    readTables w (t.merge next) paths

/-- The tables among the files below a directory, in the order of their paths. -/
def tablesAmong (directory : String) (files : List (List String)) : List String :=
  ((files.filter fun parts => parts.getLast?.any isTableName).mergeSort partsBefore).map
    fun parts => parts.foldl continuePath directory

def loadInput (w : World m) (path : String) : CommandM m SymbolTable := do
  if ← w.isFile path then readTable w path
  else if ← w.isDirectory path then
    match tablesAmong path (← w.filesBelow path) with
    | [] => throw ("No .json symbol files found in " ++ path)
    | paths => readTables w .empty paths
  else throw ("Input not found: " ++ path)

end ClientGen.CommandLine
