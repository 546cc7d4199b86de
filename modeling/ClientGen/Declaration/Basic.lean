/-
  ClientGen/Declaration/Basic.lean
  ================================
  **Declarations that a round starts from.**

  Class-like declarations with their members, top-level functions, and the table
  that holds both.  Nothing here interprets an annotation.
-/
import ClientGen.Declaration.Annotation
import ClientGen.Declaration.TypeRef
import ClientGen.Text.Blank

namespace ClientGen

open ClientGen.Text

/-! ### Keywords -/

inductive ClassKind where
  | interfaceKind
  | classKind
  | objectKind
  | companionKind
  | enumKind
  | annotationKind
deriving DecidableEq, Repr, Inhabited

def ClassKind.keyword : ClassKind → String
  | .interfaceKind => "interface"
  | .classKind => "class"
  | .objectKind => "object"
  | .companionKind => "companion"
  | .enumKind => "enum"
  | .annotationKind => "annotation"

def ClassKind.all : List ClassKind :=
  [.interfaceKind, .classKind, .objectKind, .companionKind, .enumKind, .annotationKind]

/-- The visibility of a declaration, the most restrictive first. -/
inductive Visibility where
  | privateScope
  | protectedScope
  | internalScope
  | publicScope
deriving DecidableEq, Repr, Inhabited

namespace Visibility

def keyword : Visibility → String
  | .privateScope => "private"
  | .protectedScope => "protected"
  | .internalScope => "internal"
  | .publicScope => "public"

def all : List Visibility :=
  [.privateScope, .protectedScope, .internalScope, .publicScope]

/-- How open a visibility is. -/
def rank : Visibility → Nat
  | .privateScope => 0
  | .protectedScope => 1
  | .internalScope => 2
  | .publicScope => 3

/-- The visibility with a keyword, whatever the case of its ASCII letters and the
    blanks around it. -/
def parse? (s : String) : Option Visibility :=
  all.find? fun v => v.keyword == asciiLower (trim s)

def opensBeyondModule (v : Visibility) : Bool :=
  internalScope.rank < v.rank

end Visibility

/-- The modifiers that the generator knows; `other` is any further one. -/
inductive Modifier where
  | suspending
  | abstractMember
  | openMember
  | overriding
  | expect
  | actual
  | externalMember
  | sealedType
  | functional
  | dataType
  | inlined
  | valueType
  | operatorCall
  | infixCall
  | other
deriving DecidableEq, Repr, Inhabited

def Modifier.keyword : Modifier → String
  | .suspending => "suspend"
  | .abstractMember => "abstract"
  | .openMember => "open"
  | .overriding => "override"
  | .expect => "expect"
  | .actual => "actual"
  | .externalMember => "external"
  | .sealedType => "sealed"
  | .functional => "fun"
  | .dataType => "data"
  | .inlined => "inline"
  | .valueType => "value"
  | .operatorCall => "operator"
  | .infixCall => "infix"
  | .other => "other"

def Modifier.all : List Modifier :=
  [.suspending, .abstractMember, .openMember, .overriding, .expect, .actual, .externalMember,
   .sealedType, .functional, .dataType, .inlined, .valueType, .operatorCall, .infixCall, .other]

/-! ### Members -/

structure FileRef where
  path : String
  imports : List String
deriving DecidableEq, Repr, Inhabited

/-- A value parameter; the type of a vararg is that of one element. -/
structure ParameterDeclaration where
  name : String
  type : TypeRef
  isVararg : Bool
  annotations : List AnnotationUse
deriving Repr, Inhabited

structure FunctionDeclaration where
  name : String
  packageName : Option String
  visibility : Visibility
  modifiers : List Modifier
  annotations : List AnnotationUse
  typeParameters : List String
  parameters : List ParameterDeclaration
  returnType : Option TypeRef
  file : Option FileRef
  doc : Option String
deriving Repr, Inhabited

namespace FunctionDeclaration

def hasModifier (f : FunctionDeclaration) (m : Modifier) : Bool :=
  f.modifiers.contains m

def package (f : FunctionDeclaration) : String :=
  f.packageName.getD ""

end FunctionDeclaration

structure PropertyDeclaration where
  name : String
  type : TypeRef
  mutable : Bool
  annotations : List AnnotationUse
deriving Repr, Inhabited

structure CompanionDeclaration where
  name : String
  annotations : List AnnotationUse
deriving Repr, Inhabited

def defaultCompanionName : String := "Companion"

/-! ### Classes and tables -/

structure ClassDeclaration where
  qualifiedName : String
  packageName : Option String
  kind : ClassKind
  visibility : Visibility
  modifiers : List Modifier
  annotations : List AnnotationUse
  supertypes : List TypeRef
  properties : List PropertyDeclaration
  functions : List FunctionDeclaration
  companion : Option CompanionDeclaration
  file : Option FileRef
  doc : Option String
deriving Repr, Inhabited

namespace ClassDeclaration

def simpleName (c : ClassDeclaration) : String :=
  Text.simpleName c.qualifiedName

/-- The declared package, or the part of the name in front of the class names. -/
def package (c : ClassDeclaration) : String :=
  c.packageName.getD (packageOf c.qualifiedName)

def hasModifier (c : ClassDeclaration) (m : Modifier) : Bool :=
  c.modifiers.contains m

end ClassDeclaration

/-- What one round sees: class-like declarations and top-level functions. -/
structure SymbolTable where
  classes : List ClassDeclaration
  functions : List FunctionDeclaration
deriving Repr, Inhabited

namespace SymbolTable

def empty : SymbolTable := ⟨[], []⟩

def merge (t u : SymbolTable) : SymbolTable :=
  ⟨t.classes ++ u.classes, t.functions ++ u.functions⟩

end SymbolTable

end ClientGen
