/-
  ClientGen/Declaration/Writer.lean
  =================================
  **Writing declarations.**

  Every field is written, an absent value as null; only the signature of a type that
  is no function type is left out.
-/
import ClientGen.Declaration.Basic
import ClientGen.Json.Value

namespace ClientGen

/-! ### Scalars -/

def optionalText : Option String → Json
  | none => .null
  | some s => .str s

def textsJson (ss : List String) : Json :=
  .arr (ss.map .str)

/-! ### Types -/

mutual
/-- The written form of a type. -/
def TypeRef.toJson : TypeRef → Json
  | ⟨name, nullable, arguments, resolved, typeParameter, function⟩ =>
    .obj ([("qualifiedName", .str name), ("nullable", .bool nullable),
      ("arguments", .arr (TypeArgument.toJsons arguments)), ("resolved", .bool resolved),
      ("typeParameter", .bool typeParameter)] ++ FunctionType.members function)

def TypeArgument.toJson : TypeArgument → Json
  | .star => .str "*"
  | .type t => t.toJson

def TypeArgument.toJsons : List TypeArgument → List Json
  | [] => []
  | a :: as => a.toJson :: TypeArgument.toJsons as

/-- The member that holds a signature. -/
def FunctionType.members : Option FunctionType → List (String × Json)
  | none => []
  | some f => [("function", f.toJson)]

def FunctionType.toJson : FunctionType → Json
  | ⟨receiver, parameters, returnType, suspending⟩ =>
    .obj [("receiver", TypeRef.optionToJson receiver),
      ("parameters", .arr (TypeRef.toJsons parameters)), ("returnType", returnType.toJson),
      ("suspend", .bool suspending)]

def TypeRef.optionToJson : Option TypeRef → Json
  | none => .null
  | some t => t.toJson

def TypeRef.toJsons : List TypeRef → List Json
  | [] => []
  | t :: ts => t.toJson :: TypeRef.toJsons ts
end

/-! ### Annotations -/

mutual
def AnnotationValue.toJson : AnnotationValue → Json
  | .bool b => .bool b
  | .int n => .int n
  | .float x => .float x
  | .string s => .str s
  | .array values => .arr (AnnotationValue.toJsons values)
  | .classRef name => .obj [("class", .str name)]
  | .enumEntry type entry => .obj [("enum", .str type), ("entry", .str entry)]
  | .nested use => .obj [("annotation", use.toJson)]

def AnnotationValue.toJsons : List AnnotationValue → List Json
  | [] => []
  | v :: vs => v.toJson :: AnnotationValue.toJsons vs

def AnnotationUse.toJson : AnnotationUse → Json
  | ⟨name, arguments⟩ =>
    .obj [("qualifiedName", .str name), ("arguments", .obj (AnnotationUse.entries arguments))]

def AnnotationUse.entries : List (String × AnnotationValue) → List (String × Json)
  | [] => []
  | (name, value) :: rest => (name, value.toJson) :: AnnotationUse.entries rest
end

def annotationsJson (as : List AnnotationUse) : Json :=
  .arr (as.map AnnotationUse.toJson)

/-! ### Members -/

def modifiersJson (ms : List Modifier) : Json :=
  .arr (ms.map fun m => .str m.keyword)

def FileRef.toJson (f : FileRef) : Json :=
  .obj [("path", .str f.path), ("imports", textsJson f.imports)]

def optionalFile : Option FileRef → Json
  | none => .null
  | some f => f.toJson

def ParameterDeclaration.toJson (p : ParameterDeclaration) : Json :=
  .obj [("name", .str p.name), ("type", p.type.toJson), ("isVararg", .bool p.isVararg),
    ("annotations", annotationsJson p.annotations)]

def FunctionDeclaration.toJson (f : FunctionDeclaration) : Json :=
  .obj [("name", .str f.name), ("packageName", optionalText f.packageName),
    ("visibility", .str f.visibility.keyword), ("modifiers", modifiersJson f.modifiers),
    ("annotations", annotationsJson f.annotations),
    ("typeParameters", textsJson f.typeParameters),
    ("parameters", .arr (f.parameters.map ParameterDeclaration.toJson)),
    ("returnType", TypeRef.optionToJson f.returnType), ("file", optionalFile f.file),
    ("doc", optionalText f.doc)]

def PropertyDeclaration.toJson (p : PropertyDeclaration) : Json :=
  .obj [("name", .str p.name), ("type", p.type.toJson), ("mutable", .bool p.mutable),
    ("annotations", annotationsJson p.annotations)]

def CompanionDeclaration.toJson (c : CompanionDeclaration) : Json :=
  .obj [("name", .str c.name), ("annotations", annotationsJson c.annotations)]

def optionalCompanion : Option CompanionDeclaration → Json
  | none => .null
  | some c => c.toJson

/-! ### Classes and tables -/

def ClassDeclaration.toJson (c : ClassDeclaration) : Json :=
  .obj [("qualifiedName", .str c.qualifiedName), ("packageName", optionalText c.packageName),
    ("kind", .str c.kind.keyword), ("visibility", .str c.visibility.keyword),
    ("modifiers", modifiersJson c.modifiers), ("annotations", annotationsJson c.annotations),
    ("supertypes", .arr (c.supertypes.map TypeRef.toJson)),
    ("properties", .arr (c.properties.map PropertyDeclaration.toJson)),
    ("functions", .arr (c.functions.map FunctionDeclaration.toJson)),
    ("companion", optionalCompanion c.companion), ("file", optionalFile c.file),
    ("doc", optionalText c.doc)]

def SymbolTable.toJson (t : SymbolTable) : Json :=
  .obj [("classes", .arr (t.classes.map ClassDeclaration.toJson)),
    ("functions", .arr (t.functions.map FunctionDeclaration.toJson))]

end ClientGen
