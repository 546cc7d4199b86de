/-
  ClientGen/Client/Annotations.lean
  =================================
  **Annotations on generated declarations.**

  Foreign annotations are copied with their arguments, and markers are added by name.
-/
import ClientGen.Code.Library
import ClientGen.Declaration.Annotation
import ClientGen.Imports
import ClientGen.Text.Literal

namespace ClientGen.Client

open ClientGen.Text

/-! ### Copies -/

mutual
def writeArgument : AnnotationValue → NameM String
  | .bool b => return toString b
  | .int n => return toString n
  | .float x => return x.positional
  | .string s => return quoted s
  | .array values => do
    let written ← writeElements values
    return "[" ++ join ", " written ++ "]"
  | .classRef name => do
    let written ← writeName name
    return written ++ "::class"
  | .enumEntry type entry => do
    let written ← writeName type
    return written ++ "." ++ entry
  | .nested use => writeUse use

def writeElements : List AnnotationValue → NameM (List String)
  | [] => return []
  | v :: vs => do
    let written ← writeArgument v
    let rest ← writeElements vs
    return written :: rest

/-- The written form of an annotation without its mark. -/
def writeUse : AnnotationUse → NameM String
  | ⟨name, arguments⟩ => do
    let written ← writeName name
    let arguments ← writeArgumentList arguments
    return if arguments.isEmpty then written
      else written ++ "(" ++ join ", " arguments ++ ")"

def writeArgumentList : List (String × AnnotationValue) → NameM (List String)
  | [] => return []
  | (name, value) :: rest => do
    let written ← writeArgument value
    let rest ← writeArgumentList rest
    return (name ++ " = " ++ written) :: rest
end

def writeMarkedUse (use : AnnotationUse) : NameM String :=
  return "@" ++ (← writeUse use)

/-! ### Markers -/

def writeMarker (name : String) : NameM String :=
  return "@" ++ (← writeName name)

def writeClassReference (name : String) : NameM String :=
  return (← writeName name) ++ "::class"

/-- The texts without repetitions, each at its first place. -/
def withoutRepetitions (texts : List String) : List String :=
  texts.foldl (fun kept t => if kept.contains t then kept else kept ++ [t]) []

/-- One annotation that opts into every marker, nothing when there are none. -/
def writeOptIn (names : List String) : NameM (List String) := do
  let classes := withoutRepetitions (← names.mapM writeClassReference)
  if classes.isEmpty then return []
  let optIn ← writeName Library.optIn
  return ["@" ++ optIn ++ "(" ++ join ", " classes ++ ")"]

end ClientGen.Client
