/-
  ClientGen/Declaration/Reader.lean
  =================================
  **Reading declarations.**

  A record is an object with its fields or an array of them in order.  Further
  object members are ignored, repeated fields are not allowed, and a missing field
  takes its default where there is one.
-/
import ClientGen.Ascending
import ClientGen.Declaration.Basic
import ClientGen.Json.Reader

namespace ClientGen

open ClientGen.Json

/-! ### Scalars -/

def readText {j : Json} (v : Part j) : Option String :=
  v.1.text?

def readBool {j : Json} (v : Part j) : Option Bool :=
  v.1.bool?

/-- Read a keyword: a text, or an object that gives the keyword the value null. -/
def readKeyword {j : Json} (v : Part j) : Option String :=
  match v.1 with
  | .str s => some s
  | .obj [(s, .null)] => some s
  | _ => none

def readKind {j : Json} (v : Part j) : Option ClassKind :=
  (readKeyword v).bind fun s => ClassKind.all.find? fun k => k.keyword == s

def readVisibility {j : Json} (v : Part j) : Option Visibility :=
  (readKeyword v).bind fun s => Visibility.all.find? fun x => x.keyword == s

/-- Read a modifier; an unknown keyword is `other`. -/
def readModifier {j : Json} (v : Part j) : Option Modifier :=
  (readKeyword v).map fun s => (Modifier.all.find? fun m => m.keyword == s).getD .other

/-! ### Types -/

mutual
def TypeRef.ofJson? (j : Json) : Option TypeRef :=
  match j.slots? ["qualifiedName", "nullable", "arguments", "resolved", "typeParameter",
    "function"] with
  | some [name, nullable, arguments, resolved, typeParameter, function] => do
    let name ← name.required readText
    let nullable ← nullable.orElse false readBool
    let arguments ← arguments.orElse [] fun v => v.each fun w => TypeArgument.ofJson? w.1
    let resolved ← resolved.orElse true readBool
    let typeParameter ← typeParameter.orElse false readBool
    let function ← function.optional fun v => FunctionType.ofJson? v.1
    return ⟨name, nullable, arguments, resolved, typeParameter, function⟩
  | _ => none
termination_by 2 * sizeOf j
decreasing_by
  · have := w.2; omega
  · have := v.2; omega

/-- Read a type argument: the text of a star, or a type. -/
def TypeArgument.ofJson? (j : Json) : Option TypeArgument :=
  if j.readable then
    match j.text? with
    | some s => if s = "*" then some .star else none
    | none => (TypeRef.ofJson? j).map .type
  else none
termination_by 2 * sizeOf j + 1

def FunctionType.ofJson? (j : Json) : Option FunctionType :=
  match j.slots? ["receiver", "parameters", "returnType", "suspend"] with
  | some [receiver, parameters, returnType, suspending] => do
    let receiver ← receiver.optional fun v => TypeRef.ofJson? v.1
    let parameters ← parameters.orElse [] fun v => v.each fun w => TypeRef.ofJson? w.1
    let returnType ← returnType.required fun v => TypeRef.ofJson? v.1
    let suspending ← suspending.orElse false readBool
    return ⟨receiver, parameters, returnType, suspending⟩
  | _ => none
termination_by 2 * sizeOf j
decreasing_by
  · have := v.2; omega
  · have := w.2; omega
  · have := v.2; omega
end

def readType {j : Json} (v : Part j) : Option TypeRef :=
  TypeRef.ofJson? v.1

/-! ### Annotations -/

/-- The greatest integer that stays one. -/
def maxInteger : Int := 9223372036854775807

/-- Read a truth value, a text or a number: an integer that fits 64 bits with a sign,
    or a floating number. -/
def readScalar : Json → Option AnnotationValue
  | .bool b => some (.bool b)
  | .str s => some (.string s)
  | .int n =>
    if n ≤ maxInteger then some (.int n)
    else (Decimal.ofNat n.toNat).map .float
  | .float x => some (.float x)
  | _ => none

def readClassRef (j : Json) : Option AnnotationValue :=
  match j.objectSlots? ["class"] with
  | some [name] => (name.required readText).map .classRef
  | _ => none

def readEnumEntry (j : Json) : Option AnnotationValue :=
  match j.objectSlots? ["enum", "entry"] with
  | some [type, entry] => do
    let type ← type.required readText
    let entry ← entry.required readText
    return .enumEntry type entry
  | _ => none

mutual
def AnnotationUse.ofJson? (j : Json) : Option AnnotationUse :=
  match j.slots? ["qualifiedName", "arguments"] with
  | some [name, arguments] => do
    let name ← name.required readText
    let arguments ← arguments.orElse [] fun v =>
      match v.1.members? with
      | none => none
      | some members => members.mapM fun m => do
        let value ← AnnotationValue.ofJson? m.2.1
        return (m.1, value)
    return ⟨name, Ascending.ofEntries arguments⟩
  | _ => none
termination_by 2 * sizeOf j
decreasing_by
  have := v.2; have := m.2.2; omega

/-- Read the value of an annotation argument: the first form that fits. -/
def AnnotationValue.ofJson? (j : Json) : Option AnnotationValue :=
  if j.readable then
    match j.items?, j.members? with
    | some items, _ => (items.mapM fun v => AnnotationValue.ofJson? v.1).map .array
    | none, some _ =>
      (readClassRef j).or <| (readEnumEntry j).or <|
        match j.slots? ["annotation"] with
        | some [use] => (use.required fun v => AnnotationUse.ofJson? v.1).map .nested
        | _ => none
    | none, none => readScalar j
  else none
termination_by 2 * sizeOf j + 1
decreasing_by
  · have := v.2; omega
  · have := v.2; omega
end

def readAnnotations {j : Json} (v : Part j) : Option (List AnnotationUse) :=
  v.each fun w => AnnotationUse.ofJson? w.1

/-! ### Members -/

def readTexts {j : Json} (v : Part j) : Option (List String) :=
  v.each readText

def readModifiers {j : Json} (v : Part j) : Option (List Modifier) :=
  v.each readModifier

def readFile {j : Json} (v : Part j) : Option FileRef :=
  match v.1.slots? ["path", "imports"] with
  | some [path, imports] => do
    let path ← path.required readText
    let imports ← imports.orElse [] readTexts
    return ⟨path, imports⟩
  | _ => none

def ParameterDeclaration.ofJson? (j : Json) : Option ParameterDeclaration :=
  match j.slots? ["name", "type", "isVararg", "annotations"] with
  | some [name, type, isVararg, annotations] => do
    let name ← name.required readText
    let type ← type.required readType
    let isVararg ← isVararg.orElse false readBool
    let annotations ← annotations.orElse [] readAnnotations
    return ⟨name, type, isVararg, annotations⟩
  | _ => none

def FunctionDeclaration.ofJson? (j : Json) : Option FunctionDeclaration :=
  match j.slots? ["name", "packageName", "visibility", "modifiers", "annotations",
    "typeParameters", "parameters", "returnType", "file", "doc"] with
  | some [name, packageName, visibility, modifiers, annotations, typeParameters, parameters,
      returnType, file, doc] => do
    let name ← name.required readText
    let packageName ← packageName.optional readText
    let visibility ← visibility.orElse .publicScope readVisibility
    let modifiers ← modifiers.orElse [] readModifiers
    let annotations ← annotations.orElse [] readAnnotations
    let typeParameters ← typeParameters.orElse [] readTexts
    let parameters ← parameters.orElse [] fun v => v.each fun w =>
      ParameterDeclaration.ofJson? w.1
    let returnType ← returnType.optional readType
    let file ← file.optional readFile
    let doc ← doc.optional readText
    return ⟨name, packageName, visibility, modifiers, annotations, typeParameters, parameters,
      returnType, file, doc⟩
  | _ => none

def PropertyDeclaration.ofJson? (j : Json) : Option PropertyDeclaration :=
  match j.slots? ["name", "type", "mutable", "annotations"] with
  | some [name, type, mutable, annotations] => do
    let name ← name.required readText
    let type ← type.required readType
    let mutable ← mutable.orElse false readBool
    let annotations ← annotations.orElse [] readAnnotations
    return ⟨name, type, mutable, annotations⟩
  | _ => none

def readCompanion {j : Json} (v : Part j) : Option CompanionDeclaration :=
  match v.1.slots? ["name", "annotations"] with
  | some [name, annotations] => do
    let name ← name.orElse defaultCompanionName readText
    let annotations ← annotations.orElse [] readAnnotations
    return ⟨name, annotations⟩
  | _ => none

/-! ### Classes and tables -/

def ClassDeclaration.ofJson? (j : Json) : Option ClassDeclaration :=
  match j.slots? ["qualifiedName", "packageName", "kind", "visibility", "modifiers",
    "annotations", "supertypes", "properties", "functions", "companion", "file", "doc"] with
  | some [name, packageName, kind, visibility, modifiers, annotations, supertypes, properties,
      functions, companion, file, doc] => do
    let name ← name.required readText
    let packageName ← packageName.optional readText
    let kind ← kind.orElse .interfaceKind readKind
    let visibility ← visibility.orElse .publicScope readVisibility
    let modifiers ← modifiers.orElse [] readModifiers
    let annotations ← annotations.orElse [] readAnnotations
    let supertypes ← supertypes.orElse [] fun v => v.each readType
    let properties ← properties.orElse [] fun v => v.each fun w =>
      PropertyDeclaration.ofJson? w.1
    let functions ← functions.orElse [] fun v => v.each fun w =>
      FunctionDeclaration.ofJson? w.1
    let companion ← companion.optional readCompanion
    let file ← file.optional readFile
    let doc ← doc.optional readText
    return ⟨name, packageName, kind, visibility, modifiers, annotations, supertypes, properties,
      functions, companion, file, doc⟩
  | _ => none

def SymbolTable.ofJson? (j : Json) : Option SymbolTable :=
  match j.slots? ["classes", "functions"] with
  | some [classes, functions] => do
    let classes ← classes.orElse [] fun v => v.each fun w => ClassDeclaration.ofJson? w.1
    let functions ← functions.orElse [] fun v => v.each fun w => FunctionDeclaration.ofJson? w.1
    return ⟨classes, functions⟩
  | _ => none

def SymbolTable.read? (text : String) : Option SymbolTable :=
  (Json.read? text).bind SymbolTable.ofJson?

end ClientGen
