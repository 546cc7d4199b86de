/-
  ClientGen/Vocabulary/Settings.lean
  ==================================
  **What annotations say about the generated code.**

  Names and visibilities that were not given still hold the unset mark.
-/
import ClientGen.Text.Name

namespace ClientGen

open ClientGen.Text

structure ClassSettings where
  name : String
  basePath : String
  generate : Bool
  topLevelFactory : Bool
  companionFactory : Bool
  httpClientFactory : Bool
  propagateAnnotations : Bool
  annotations : List String
  optInAnnotations : List String
  functionAnnotations : List String
  visibility : String
  classVisibility : String
  constructorVisibility : String
  functionVisibility : String
  customFileHeader : String
  customClassHeader : String
deriving DecidableEq, Repr, Inhabited

def ClassSettings.default : ClassSettings :=
  ⟨unsetMark, "", true, true, false, false, true, [], [], [], unsetMark, unsetMark, unsetMark,
    unsetMark, "", ""⟩

/-- Names that annotations of their own give to factories. -/
structure FactoryNames where
  topLevel : Option String
  companion : Option String
  httpClient : Option String
deriving DecidableEq, Repr, Inhabited

structure FunctionSettings where
  /-- A function that is left out needs a default body. -/
  generate : Bool
  propagateAnnotations : Bool
  annotations : List String
  optInAnnotations : List String
  customHeader : String
deriving DecidableEq, Repr, Inhabited

def FunctionSettings.default : FunctionSettings :=
  ⟨true, true, [], [], ""⟩

end ClientGen
