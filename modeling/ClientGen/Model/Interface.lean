/-
  ClientGen/Model/Interface.lean
  ==============================
  **Interfaces ready for checking.**

  A model owns its functions and their parameters and is never changed: checks
  report about it and generation reads it.
-/
import ClientGen.Declaration.Basic
import ClientGen.Model.Function

namespace ClientGen

/-- The settings of an interface with every default resolved. -/
structure ClassOptions where
  generatedName : String
  basePath : String
  generate : Bool
  /-- The factory's name when it is wanted; so for the two below. -/
  topLevelFactory : Option String
  companionFactory : Option String
  httpClientFactory : Option String
  propagateAnnotations : Bool
  annotations : List String
  optInAnnotations : List String
  functionAnnotations : List String
  classVisibility : String
  constructorVisibility : String
  functionVisibility : String
  customFileHeader : String
  customClassHeader : String
deriving DecidableEq, Repr, Inhabited

def ClassOptions.hasAnyFactory (o : ClassOptions) : Bool :=
  o.topLevelFactory.isSome || o.companionFactory.isSome || o.httpClientFactory.isSome

/-- A property that the generated class implements. -/
structure PropertyModel where
  name : String
  type : TypeRef
  mutable : Bool
deriving DecidableEq, Repr, Inhabited

structure CompanionModel where
  name : String
  hasKtorGen : Bool
deriving DecidableEq, Repr, Inhabited

/-- A top-level function that creates the interface, declared for several platforms. -/
structure ExpectFunction where
  name : String
  packageName : String
  visibility : Visibility
  isExpect : Bool
  parameters : List (String × TypeRef)
  returnType : TypeRef
  customHeader : String
  passthrough : List AnnotationUse
  sourceFile : Option String
deriving Repr, Inhabited

structure InterfaceModel where
  qualifiedName : String
  simpleName : String
  packageName : String
  visibility : Visibility
  options : ClassOptions
  /-- Supertypes that the generated class delegates to. -/
  supertypes : List TypeRef
  /-- Properties other than the client. -/
  properties : List PropertyModel
  /-- The property that holds the client, when one is declared. -/
  clientProperty : Option String
  functions : List FunctionModel
  companion : Option CompanionModel
  ktorGenOnInterface : Bool
  expectFunctions : List ExpectFunction
  imports : List String
  sourceFile : String
deriving Repr, Inhabited

namespace InterfaceModel

def defaultClientName : String := "_httpClient"

/-- The name of the constructor parameter that holds the client. -/
def clientName (m : InterfaceModel) : String :=
  m.clientProperty.getD defaultClientName

/-- The functions that the generated class overrides. -/
def generatedFunctions (m : InterfaceModel) : List FunctionModel :=
  m.functions.filter fun f => f.generate

def hasCompanion (m : InterfaceModel) : Bool :=
  m.companion.isSome

/-- The settings stand on the interface and on its companion. -/
def hasTwoKtorGen (m : InterfaceModel) : Bool :=
  m.ktorGenOnInterface && m.companion.any fun c => c.hasKtorGen

end InterfaceModel

end ClientGen
