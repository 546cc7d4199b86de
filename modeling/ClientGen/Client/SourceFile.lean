/-
  ClientGen/Client/SourceFile.lean
  ================================
  **Generated files.**

  A file lies in the directories of its package; it becomes out of date when one of the
  files it was made from changes.
-/
import ClientGen.Code.Printer
import ClientGen.Model.Interface

namespace ClientGen.Client

open ClientGen.Code ClientGen.Text

/-! ### Paths -/

/-- A path continued by a part; a part that starts at the root stands alone. -/
def continuePath (path part : String) : String :=
  if startsWith part "/" || path.isEmpty then part
  else if endsWith path "/" then path ++ part
  else path ++ "/" ++ part

def packagePath (package : String) : String :=
  ((splitOn '.' package).filter fun part => !part.isEmpty).foldl continuePath ""

/-! ### Files -/

structure SourceFile where
  package : String
  fileName : String
  file : File
  /-- The files that it was made from. -/
  dependencies : List String
deriving Repr, Inhabited

/-- The path of the file below the output directory. -/
def SourceFile.path (f : SourceFile) : String :=
  continuePath (packagePath f.package) f.fileName

def SourceFile.content (f : SourceFile) : String :=
  f.file.text

def defaultFileComment : String :=
  "Generated by KtorGen. Do not edit, changes are lost on the next build."

def fileSuppressions : String :=
  "Suppress(\"REDUNDANT_VISIBILITY_MODIFIER\", \"unused\", \"UNUSED_IMPORT\", \"warnings\", "
    ++ "\"RemoveSingleExpressionStringTemplate\", \"ktlint\", \"detekt:all\")"

def fileOf (m : InterfaceModel) (package : String) (imports : List String)
    (classes : List Code.Class) (functions : List Function) : File :=
  let header := m.options.customFileHeader
  { annotations := [fileSuppressions]
    comment := some (if isBlank header then defaultFileComment else header)
    package := package
    imports := imports
    classes := classes
    functions := functions }

end ClientGen.Client
