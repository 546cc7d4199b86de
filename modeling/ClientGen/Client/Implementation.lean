/-
  ClientGen/Client/Implementation.lean
  ====================================
  **The class that implements an interface.**

  Every override is written in a step of its own; a function that cannot be planned
  fails its step and the round.
-/
import ClientGen.Client.Constructor
import ClientGen.Client.Override
import ClientGen.Diagnostics.Log

namespace ClientGen.Client

open ClientGen.Code ClientGen.Text

/-! ### Overrides -/

/-- Write an override in its step. -/
def generateOverride (m : InterfaceModel) (names : ImportTable) (f : FunctionModel) :
    StepM (Function × ImportTable) :=
  StepM.task ("Generate " ++ f.name) do
    let plan ← MonadExcept.ofExcept (planOverride f)
    StepM.note ("Generated " ++ f.signature m.simpleName none)
    return (writeOverride m f plan).run names

def generateOverrides (m : InterfaceModel) (names : ImportTable) :
    List FunctionModel → StepM (List Function × ImportTable)
  | [] => return ([], names)
  | f :: fs => do
    let (first, names) ← generateOverride m names f
    let (rest, names) ← generateOverrides m names fs
    return (first :: rest, names)

/-! ### The head of the class -/

/-- The class up to its functions. -/
structure ClassHead where
  annotations : List String
  constructorParams : List Param
  supertypes : List String
deriving DecidableEq, Repr, Inhabited

def writeClassAnnotations (o : ClassOptions) : NameM (List String) := do
  let generated ← writeMarker Library.generated
  let markers ← o.annotations.mapM writeMarker
  let optIn ← writeOptIn o.optInAnnotations
  return generated :: markers ++ optIn

def writeConstructorParam (p : ConstructorParam) : NameM Param := do
  let type ← writeType p.type
  return ⟨[], p.property.map PropertyWord.text, false, p.name, type⟩

def writeDelegation (t : TypeRef) : NameM String := do
  let type ← writeType t
  return type ++ " by " ++ delegateName t

def writeClassHead (m : InterfaceModel) : NameM ClassHead := do
  let annotations ← writeClassAnnotations m.options
  let params ← (constructorParams m).mapM writeConstructorParam
  let interface ← writeName m.qualifiedName
  let delegations ← m.supertypes.mapM writeDelegation
  return ⟨annotations, params, interface :: delegations⟩

/-! ### The class -/

def implementation (m : InterfaceModel) (head : ClassHead) (functions : List Function) :
    Code.Class :=
  { doc := if isBlank m.options.customClassHeader then none else some m.options.customClassHeader
    annotations := head.annotations
    modifiers := [m.options.classVisibility]
    name := m.options.generatedName
    constructorModifiers := [m.options.constructorVisibility]
    constructorParams := head.constructorParams
    supertypes := head.supertypes
    functions := functions }

def generateClass (m : InterfaceModel) (names : ImportTable) :
    StepM (Code.Class × ImportTable) := do
  let (head, names) := (writeClassHead m).run names
  let (functions, names) ← generateOverrides m names m.generatedFunctions
  return (implementation m head functions, names)

end ClientGen.Client
