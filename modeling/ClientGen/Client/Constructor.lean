/-
  ClientGen/Client/Constructor.lean
  =================================
  **What a generated class is constructed from.**

  The client comes first, then the properties of the interface, then what its
  supertypes are delegated to.
-/
import ClientGen.Model.Interface

namespace ClientGen.Client

open ClientGen.Text

/-! ### Parameters -/

/-- What a constructor parameter becomes inside the class. -/
inductive PropertyWord where
  | overrideVal
  | overrideVar
  | privateVal
deriving DecidableEq, Repr, Inhabited

def PropertyWord.text : PropertyWord → String
  | .overrideVal => "override val"
  | .overrideVar => "override var"
  | .privateVal => "private val"

/-- A parameter of the constructor; a delegate is no property. -/
structure ConstructorParam where
  name : String
  type : TypeRef
  property : Option PropertyWord
deriving DecidableEq, Repr, Inhabited

def delegateName (t : TypeRef) : String :=
  lowerCamel t.simpleName

def clientParam (m : InterfaceModel) : ConstructorParam :=
  ⟨m.clientName, .named TypeName.httpClient,
    some (if m.clientProperty.isSome then .overrideVal else .privateVal)⟩

def propertyParam (p : PropertyModel) : ConstructorParam :=
  ⟨p.name, p.type, some (if p.mutable then .overrideVar else .overrideVal)⟩

def delegateParam (t : TypeRef) : ConstructorParam :=
  ⟨delegateName t, t, none⟩

/-- The parameters behind the client. -/
def ownParams (m : InterfaceModel) : List ConstructorParam :=
  m.properties.map propertyParam ++ m.supertypes.map delegateParam

def constructorParams (m : InterfaceModel) : List ConstructorParam :=
  clientParam m :: ownParams m

end ClientGen.Client
