/-
  ClientGen/CommandLine/World.lean
  ================================
  **What commands need from the world around them.**

  Commands are written over this record alone, so they run on a disk and in memory
  alike.
-/
import ClientGen.Client.SourceFile

namespace ClientGen.CommandLine

open ClientGen.Text

/-! ### Paths -/

def parentPath (path : String) : String :=
  match (pieces '/' path.toList).reverse with
  | [] | [_] => ""
  | _ :: front =>
    let directory := joinPieces '/' front.reverse
    let trimmed := (directory.reverse.dropWhile (· == '/')).reverse
    if trimmed.isEmpty then "/" else String.ofList trimmed

/-- The name ends in `.json` and has something in front of that. -/
def isTableName (name : String) : Bool :=
  endsWith name ".json" && name != ".json"

/-- The parts come first in the order of paths: part by part. -/
def partsBefore : List String → List String → Bool
  | [], _ => true
  | _ :: _, [] => false
  | p :: ps, q :: qs => if p = q then partsBefore ps qs else p < q

/-! ### Operations -/

/-- Work that can fail with a message. -/
abbrev CommandM (m : Type → Type) (α : Type) : Type := ExceptT String m α

/-- The operations of a world whose effects are `m`. -/
structure World (m : Type → Type) where
  isFile : String → m Bool
  isDirectory : String → m Bool
  readFile : String → CommandM m String
  /-- The parts of the path of every file below a directory. -/
  filesBelow : String → m (List (List String))
  /-- Create a directory with the directories around it. -/
  createDirectories : String → CommandM m Unit
  writeFile : String → String → CommandM m Unit
  print : String → m Unit
  printError : String → m Unit

end ClientGen.CommandLine
