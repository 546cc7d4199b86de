/-
  ClientGen/Declaration/Annotation.lean
  =====================================
  **Annotations with resolved arguments.**

  Arguments are kept in ascending order of their names, one value for each name.
-/
import ClientGen.Decimal.Shortest
import ClientGen.Text.Name

namespace ClientGen

open ClientGen.Decimal ClientGen.Text

mutual
inductive AnnotationValue where
  | bool (b : Bool)
  | int (n : Int)
  | float (x : Binary64)
  | string (s : String)
  | array (values : List AnnotationValue)
  | classRef (name : String)
  | enumEntry (type entry : String)
  | nested (use : AnnotationUse)

/-- An annotation as it is used: a qualified name, or a simple name that was left
    unqualified. -/
structure AnnotationUse where
  qualifiedName : String
  arguments : List (String × AnnotationValue)
end

deriving instance Repr, Inhabited for AnnotationValue, AnnotationUse

namespace AnnotationUse

def named (name : String) : AnnotationUse :=
  ⟨name, []⟩

def simpleName (a : AnnotationUse) : String :=
  Text.simpleName a.qualifiedName

def argument? (a : AnnotationUse) (name : String) : Option AnnotationValue :=
  a.arguments.lookup name

/-- The annotation is `simple` of `package`: a dotted name has to be exactly that, a
    name without dots only the simple name. -/
def is (a : AnnotationUse) (package simple : String) : Bool :=
  if a.qualifiedName.toList.contains '.' then a.qualifiedName == package ++ "." ++ simple
  else a.qualifiedName == simple

end AnnotationUse

end ClientGen
