/-
  ClientGen/Imports.lean
  ======================
  **Names in one file.**

  The first qualified name with a simple name owns it and is imported when needed;
  every later one with the same simple name is written in full.
-/
import ClientGen.Ascending
import ClientGen.Declaration.TypeRef
import ClientGen.Text.Blank

namespace ClientGen

open ClientGen.Text

/-! ### Tables -/

def defaultPackages : List String :=
  ["kotlin", "kotlin.annotation", "kotlin.collections", "kotlin.comparisons", "kotlin.io",
   "kotlin.ranges", "kotlin.sequences", "kotlin.text"]

structure ImportTable where
  /-- The package of the file. -/
  package : String
  /-- The qualified name that owns a simple name. -/
  owners : List (String × String)
  imports : List String
  /-- Imports of whole packages and imports under another name, as written. -/
  verbatim : List String
deriving DecidableEq, Repr, Inhabited

/-- Names are written in a file by looking them up and importing them. -/
abbrev NameM (α : Type) : Type := StateM ImportTable α

namespace ImportTable

def empty (package : String) : ImportTable :=
  ⟨package, [], [], []⟩

def sees (t : ImportTable) (package : String) : Bool :=
  package == t.package || defaultPackages.contains package

def importName (t : ImportTable) (package name : String) : ImportTable :=
  if t.sees package then t else { t with imports := Ascending.putName name t.imports }

def lines (t : ImportTable) : List String :=
  Ascending.ofNames (t.imports ++ t.verbatim)

end ImportTable

def splitLast (name : String) : Option (String × String) :=
  match (pieces '.' name.toList).reverse with
  | last :: front :: rest =>
    some (String.ofList (joinPieces '.' (front :: rest).reverse), String.ofList last)
  | _ => none

/-! ### Writing names -/

def writeName (name : String) : NameM String := do
  match splitLast name with
  | none => return name
  | some (package, simple) =>
    let t ← get
    match t.owners.lookup simple with
    | some owner => return if owner = name then simple else name
    | none =>
      set (ImportTable.importName { t with owners := (simple, name) :: t.owners } package name)
      return simple

/-- The written form of a top-level function or property, which is imported when needed;
    such names never clash. -/
def writeMember (name : String) : NameM String := do
  match splitLast name with
  | none => return name
  | some (package, simple) =>
    modify fun t => t.importName package name
    return simple

/-- The import is kept as it is written. -/
def isVerbatim (text : String) : Bool :=
  endsWith text ".*" || contains text " as "

/-- Take over an import of the source file. -/
def addSourceImport (text : String) : NameM Unit := do
  let text := trim text
  if isVerbatim text then
    modify fun t => { t with verbatim := Ascending.putName text t.verbatim }
  else if !text.isEmpty then
    let _ ← writeName text

/-! ### Writing types -/

mutual
/-- The written form of a type, importing every class that it mentions. -/
def writeType : TypeRef → NameM String
  | ⟨name, nullable, arguments, _, typeParameter, function⟩ =>
    match function with
    | some f => writeFunctionType nullable f
    | none => do
      let written ← if typeParameter then pure name else writeName name
      let arguments ← writeArguments arguments
      return displayPlain written nullable arguments

def writeArguments : List TypeArgument → NameM (List String)
  | [] => return []
  | .star :: as => do
    let rest ← writeArguments as
    return "*" :: rest
  | .type t :: as => do
    let written ← writeType t
    let rest ← writeArguments as
    return written :: rest

def writeFunctionType (nullable : Bool) : FunctionType → NameM String
  | ⟨receiver, parameters, returnType, suspending⟩ => do
    let receiver ← writeOptionalType receiver
    let parameters ← writeTypes parameters
    let returnType ← writeType returnType
    return displayFunction nullable suspending receiver parameters returnType

def writeOptionalType : Option TypeRef → NameM (Option String)
  | none => return none
  | some t => do
    let written ← writeType t
    return some written

def writeTypes : List TypeRef → NameM (List String)
  | [] => return []
  | t :: ts => do
    let written ← writeType t
    let rest ← writeTypes ts
    return written :: rest
end

end ClientGen
