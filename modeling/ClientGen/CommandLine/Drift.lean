/-
  ClientGen/CommandLine/Drift.lean
  ================================
  **Generated files compared with what is there.**
-/
import ClientGen.Text.Difference

namespace ClientGen.CommandLine

open ClientGen.Text

/-- A generated file beside the current contents, when there are any. -/
structure FileDrift where
  path : String
  generated : String
  current : Option String
deriving DecidableEq, Repr, Inhabited

/-- The changes of a file under a heading; `label` says what the old text is. -/
def unifiedDifference (path old new label : String) : String :=
  "--- " ++ path ++ " (" ++ label ++ ")\n+++ " ++ path ++ " (generated)\n" ++ differenceText old new

namespace FileDrift

def isMissing (d : FileDrift) : Bool :=
  d.current.isNone

def isStale (d : FileDrift) : Bool :=
  d.current.any fun current => current != d.generated

/-- The changes, nothing when the file is up to date. -/
def render (d : FileDrift) : Option String :=
  match d.current with
  | none => some (unifiedDifference d.path "" d.generated "missing")
  | some current =>
    if current = d.generated then none
    else some (unifiedDifference d.path current d.generated "current")

end FileDrift

end ClientGen.CommandLine
