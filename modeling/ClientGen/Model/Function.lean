/-
  ClientGen/Model/Function.lean
  =============================
  **Functions and parameters ready for checking.**
-/
import ClientGen.Declaration.Annotation
import ClientGen.Model.ReturnKind
import ClientGen.Model.TypeShape
import ClientGen.Path.Template
import ClientGen.Vocabulary.Role
import ClientGen.Vocabulary.Settings

namespace ClientGen

open ClientGen.Path ClientGen.Text

/-! ### Parameters -/

/-- How a parameter without a role shapes the whole request. -/
inductive BuilderKind where
  /-- A request whose contents are taken over. -/
  | takeFrom
  /-- A function that is run on the builder. -/
  | lambda
deriving DecidableEq, Repr, Inhabited

def BuilderKind.keyword : BuilderKind → String
  | .takeFrom => "takeFrom"
  | .lambda => "lambda"

/-- One parameter; the type of a vararg is that of one element. -/
structure ParameterModel where
  name : String
  type : TypeRef
  isVararg : Bool
  roles : List Role
  builder : Option BuilderKind
  passthrough : List AnnotationUse
deriving Repr, Inhabited

namespace ParameterModel

/-- The distinct kinds of the roles, in the order of kinds. -/
def roleKinds (p : ParameterModel) : List RoleKind :=
  RoleKind.all.filter fun k => p.roles.any fun r => r.kind == k

def hasRole (p : ParameterModel) (k : RoleKind) : Bool :=
  p.roles.any fun r => r.kind == k

def role? (p : ParameterModel) (k : RoleKind) : Option Role :=
  p.roles.find? fun r => r.kind == k

def rolesOf (p : ParameterModel) (k : RoleKind) : List Role :=
  p.roles.filter fun r => r.kind == k

def shape (p : ParameterModel) : TypeShape :=
  .of p.type p.isVararg

def mapShape? (p : ParameterModel) (stringValues : Bool) : Option MapShape :=
  MapShape.of? p.type stringValues

end ParameterModel

/-! ### Functions -/

structure FunctionModel where
  name : String
  returnType : TypeRef
  returnKind : ReturnKind
  isSuspend : Bool
  isAbstract : Bool
  /-- The generated class overrides the function. -/
  generate : Bool
  httpMethod : MethodUse
  /-- The base path joined with the path of the method. -/
  path : Template
  marks : List FunctionMark
  parameters : List ParameterModel
  settings : FunctionSettings
  typeParameters : List String
  passthrough : List AnnotationUse
deriving Repr, Inhabited

namespace FunctionModel

def hasRole (f : FunctionModel) (k : RoleKind) : Bool :=
  f.parameters.any fun p => p.hasRole k

def parametersWith (f : FunctionModel) (k : RoleKind) : List ParameterModel :=
  f.parameters.filter fun p => p.hasRole k

def builderParameters (f : FunctionModel) : List ParameterModel :=
  f.parameters.filter fun p => p.builder.isSome

def hasFormMarker (f : FunctionModel) : Bool :=
  f.marks.contains .formUrlEncoded

def hasMultipartMarker (f : FunctionModel) : Bool :=
  f.marks.contains .multipart

/-- The function is form encoded, by its mark or by its parameters. -/
def isFormUrl (f : FunctionModel) : Bool :=
  f.hasFormMarker || f.hasRole .field || f.hasRole .fieldMap

def isMultipart (f : FunctionModel) : Bool :=
  f.hasMultipartMarker || f.hasRole .part || f.hasRole .partMap

def hasBodyParameter (f : FunctionModel) : Bool :=
  f.hasRole .body

/-- The request has a body of one of the three styles. -/
def hasBody (f : FunctionModel) : Bool :=
  f.hasBodyParameter || f.isFormUrl || f.isMultipart

def markHeaders : FunctionMark → List String
  | .header name value => [name ++ ": " ++ value]
  | .headers entries => entries
  | _ => []

/-- The header entries of the function, as written. -/
def rawHeaders (f : FunctionModel) : List String :=
  f.marks.flatMap markHeaders

def markCookie? : FunctionMark → Option Cookie
  | .cookie c => some c
  | _ => none

def cookies (f : FunctionModel) : List Cookie :=
  f.marks.filterMap markCookie?

def markFragment? : FunctionMark → Option (String × Bool)
  | .fragment value encoded => some (value, encoded)
  | _ => none

/-- The fragment of the function and whether it is already encoded. -/
def fragment? (f : FunctionModel) : Option (String × Bool) :=
  f.marks.findSome? markFragment?

/-! ### Display -/

def shortType (t : TypeRef) : String :=
  t.simpleName ++ (if t.nullable then "?" else "")

def parameterText (highlight : Option String) (p : ParameterModel) : String :=
  String.join (p.roleKinds.map fun k => k.annotationName ++ " ")
    ++ (if p.isVararg then "vararg " else "")
    ++ (if highlight = some p.name then "**" ++ p.name ++ "**" else p.name)
    ++ ": " ++ shortType p.type

def methodText (m : MethodUse) : String :=
  match m.method with
  | .absent => ""
  | method => "@" ++ method.display ++ "(\"" ++ m.path ++ "\") "

/-- The function on one line, with one parameter highlighted. -/
def signature (f : FunctionModel) (className : String) (highlight : Option String) : String :=
  className ++ "." ++ methodText f.httpMethod ++ f.name ++ "("
    ++ join ", " (f.parameters.map (parameterText highlight)) ++ "): " ++ shortType f.returnType

end FunctionModel

end ClientGen
