/-
  ClientGen/Model/TypeShape.lean
  ==============================
  **How a parameter holds its values.**

  One value or the elements of a collection, and where a null may stand.  Every null
  guard in the generated code is decided by this view.
-/
import ClientGen.Declaration.TypeRefEq
import ClientGen.Model.TypeNames

namespace ClientGen

/-! ### Values -/

/-- One value, or every element of a collection. -/
inductive Container where
  | single
  | many
deriving DecidableEq, Repr, Inhabited

def Container.keyword : Container → String
  | .single => "single"
  | .many => "many"

/-- Where values are and where nulls may stand. -/
structure TypeShape where
  container : Container
  /-- The collection itself may be null. -/
  containerNullable : Bool
  /-- The type of one value. -/
  element : TypeRef
  elementNullable : Bool
deriving DecidableEq, Repr, Inhabited

namespace TypeShape

/-- A vararg holds the elements of its declared type. -/
def ofVararg (t : TypeRef) : TypeShape :=
  ⟨.many, false, t, t.nullable⟩

def ofType (t : TypeRef) : TypeShape :=
  match TypeName.collections.contains t.qualifiedName, t.argument? 0 with
  | true, some element => ⟨.many, t.nullable, element, element.nullable⟩
  | _, _ => ⟨.single, t.nullable, t, t.nullable⟩

def of (t : TypeRef) (isVararg : Bool) : TypeShape :=
  if isVararg then ofVararg t else ofType t

def isStringValued (s : TypeShape) : Bool :=
  s.element.isString

end TypeShape

/-! ### Entries -/

/-- How a parameter holds names with values. -/
inductive MapShape where
  | map
  | pair
deriving DecidableEq, Repr, Inhabited

def MapShape.keyword : MapShape → String
  | .map => "Map"
  | .pair => "Pair"

/-- The type is that of a name: text that is never null. -/
def TypeRef.isName (t : TypeRef) : Bool :=
  t.isString && !t.nullable

def MapShape.container? (t : TypeRef) : Option MapShape :=
  if t.isMap then some .map else if t.isPair then some .pair else none

/-- The shape of a map-like type: its first argument is a name and, when values have
    to be text, its second is text that may be null. -/
def MapShape.of? (t : TypeRef) (stringValues : Bool) : Option MapShape :=
  match MapShape.container? t with
  | none => none
  | some shape =>
    if !(t.argument? 0).any TypeRef.isName then none
    else if stringValues && !(t.argument? 1).any TypeRef.isString then none
    else some shape

end ClientGen
