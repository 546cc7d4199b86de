/-
  ClientGen/Request/Body.lean
  ===========================
  **The body and the tags of a request.**
-/
import ClientGen.Model.TypeNames
import ClientGen.Request.Header

namespace ClientGen.Request

open ClientGen.Code ClientGen.Text

/-! ### Local names -/

def partsName : String := "_partDataList"

def multipartName : String := "_multiPartDataContent"

def formName : String := "_formDataContent"

/-! ### Style -/

/-- Where the body comes from. -/
inductive BodyStyle where
  /-- One parameter is the body. -/
  | parameter (p : ParameterModel)
  | multipart
  | form
  | absent
deriving Repr, Inhabited

/-- The style of a function: a body parameter wins, then parts, then fields. -/
def BodyStyle.of (f : FunctionModel) : BodyStyle :=
  match f.parametersWith .body with
  | p :: _ => .parameter p
  | [] => if f.isMultipart then .multipart else if f.isFormUrl then .form else .absent

/-! ### Parts -/

def partStatement? (p : ParameterModel) : Role → Option Statement
  | .part name _ => some <|
    if p.shape.element.is TypeName.partData then
      eachValue p.name p.shape fun v => .expression (partsName ++ ".add(" ++ v.code ++ ")")
    else eachValue p.name p.shape fun v => appendTo (quoted name) v.text
  | .partMap _ => some (eachEntry p fun key v => appendTo key v.text)
  | _ => none

def writeMultipart (f : FunctionModel) : NameM (List Statement) := do
  let part ← writeName TypeName.partData
  let collect ← writeMember Library.formData
  let content ← writeName Library.multipartContent
  let setBody ← writeMember Library.setBody
  return [
    .value partsName ("mutableListOf<" ++ part ++ ">()"),
    .block (.plain ("val " ++ multipartName ++ " = " ++ collect) (roleStatements f partStatement?)),
    .expression ("this." ++ setBody ++ "(" ++ content ++ "(" ++ partsName ++ " + " ++ multipartName
      ++ "))")]

/-! ### Fields -/

/-- The text of a field.  Fields are encoded when they are sent, so one that is already
    encoded is decoded first. -/
def fieldText (decode : Option String) (v : Value) : String :=
  match decode with
  | some decode => v.text ++ "." ++ decode ++ "(plusIsSpace = true)"
  | none => v.text

def writeDecoder (encoded : Bool) : NameM (Option String) := do
  if encoded then
    let decode ← writeMember Library.decodeQueryComponent
    return some decode
  else return none

def writeField? (p : ParameterModel) : Role → NameM (Option Statement)
  | .field name encoded => do
    let decode ← writeDecoder encoded
    return some (eachValue p.name p.shape fun v => appendTo (quoted name) (fieldText decode v))
  | .fieldMap encoded => do
    let decode ← writeDecoder encoded
    return some (eachEntry p fun key v => appendTo key (fieldText decode v))
  | _ => return none

/-- Every role beside its parameter, in declaration order. -/
def roleUses (f : FunctionModel) : List (ParameterModel × Role) :=
  f.parameters.flatMap fun p => p.roles.map fun r => (p, r)

def writeFields (f : FunctionModel) : NameM (List Statement) := do
  let fields ← (roleUses f).mapM fun use => writeField? use.1 use.2
  return fields.filterMap id

def writeForm (f : FunctionModel) : NameM (List Statement) := do
  let fields ← writeFields f
  let parameters ← writeName Library.parameters
  let content ← writeName Library.formDataContent
  let setBody ← writeMember Library.setBody
  return [
    .block (.plain ("val " ++ formName ++ " = " ++ parameters ++ ".build") fields),
    .expression ("this." ++ setBody ++ "(" ++ content ++ "(" ++ formName ++ "))")]

/-! ### Bodies -/

def writeBodyParameter (p : ParameterModel) : NameM (List Statement) := do
  let setBody ← writeMember Library.setBody
  return [.expression ("this." ++ setBody ++ "(" ++ p.name ++ ")")]

def writeBody (f : FunctionModel) : NameM (List Statement) :=
  match BodyStyle.of f with
  | .parameter p => writeBodyParameter p
  | .multipart => writeMultipart f
  | .form => writeForm f
  | .absent => return []

/-! ### Tags -/

def tagName? (p : ParameterModel) : Option String :=
  match p.role? .tag with
  | some (.tag name) => some name
  | _ => none

def tagged (f : FunctionModel) : List (ParameterModel × String) :=
  f.parameters.filterMap fun p => (tagName? p).map fun name => (p, name)

def writeTag (p : ParameterModel) (name : String) : NameM Statement := do
  let key ← writeName Library.attributeKey
  let type ← writeType { p.type with nullable := false }
  return eachValue p.name (wholeShape p) fun v =>
    .expression ("this.attributes.put(" ++ key ++ "<" ++ type ++ ">(" ++ quoted name ++ "), "
      ++ v.code ++ ")")

def writeTags (f : FunctionModel) : NameM (List Statement) :=
  (tagged f).mapM fun use => writeTag use.1 use.2

end ClientGen.Request
