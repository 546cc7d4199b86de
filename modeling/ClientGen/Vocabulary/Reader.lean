/-
  ClientGen/Vocabulary/Reader.lean
  ================================
  **Reading annotations by their vocabulary.**

  This is the only place that looks arguments up by name.  A use that is no word of
  the vocabulary is passed through untouched.
-/
import ClientGen.Vocabulary.Role
import ClientGen.Vocabulary.Settings
import ClientGen.Vocabulary.Word

namespace ClientGen

open ClientGen.Text

/-! ### Arguments -/

namespace AnnotationUse

/-- A text argument; an enum entry counts as its name. -/
def text (a : AnnotationUse) (name default : String) : String :=
  match a.argument? name with
  | some (.string s) => s
  | some (.enumEntry _ entry) => entry
  | _ => default

/-- The first argument given among `names`, as a text. -/
def textOf (a : AnnotationUse) (names : List String) (default : String) : String :=
  match names.find? fun n => (a.argument? n).isSome with
  | some n => a.text n default
  | none => default

def flag (a : AnnotationUse) (name : String) (default : Bool) : Bool :=
  match a.argument? name with
  | some (.bool b) => b
  | _ => default

def integer (a : AnnotationUse) (name : String) (default : Int) : Int :=
  match a.argument? name with
  | some (.int n) => n
  | _ => default

end AnnotationUse

def AnnotationValue.text? : AnnotationValue → Option String
  | .string s => some s
  | _ => none

/-- The name of a class, given as a reference or as a text. -/
def AnnotationValue.className? : AnnotationValue → Option String
  | .classRef name => some name
  | .string s => some s
  | _ => none

def AnnotationValue.nested? : AnnotationValue → Option AnnotationUse
  | .nested use => some use
  | _ => none

/-- The elements of an array, or the value alone. -/
def AnnotationValue.elements : AnnotationValue → List AnnotationValue
  | .array values => values
  | v => [v]

namespace AnnotationUse

def collect {α : Type} (a : AnnotationUse) (name : String) (pick : AnnotationValue → Option α) :
    List α :=
  match a.argument? name with
  | some v => v.elements.filterMap pick
  | none => []

def texts (a : AnnotationUse) (name : String) : List String :=
  a.collect name AnnotationValue.text?

def classNames (a : AnnotationUse) (name : String) : List String :=
  a.collect name AnnotationValue.className?

def nested (a : AnnotationUse) (name : String) : List AnnotationUse :=
  a.collect name AnnotationValue.nested?

/-- A text argument that names something, by default after the parameter. -/
def nameOr (a : AnnotationUse) (name parameter : String) : String :=
  Text.nameOr (a.text name unsetMark) parameter

def encoded (a : AnnotationUse) : Bool :=
  a.flag "encoded" false

def readCookie (a : AnnotationUse) : Cookie :=
  let value := a.text "value" unsetMark
  let expires := a.integer "expiresTimestamp" (-1)
  { name := a.text "name" ""
    value := if isUnset value then .fromParameter else .literal value
    maxAge := a.integer "maxAge" 0
    expires := if 0 ≤ expires then some expires else none
    domain := a.text "domain" ""
    path := a.text "path" ""
    secure := a.flag "secure" false
    httpOnly := a.flag "httpOnly" false
    extensions := (a.nested "extensions").map fun pair =>
      (pair.text "first" "", pair.text "second" "") }

end AnnotationUse

/-! ### Functions -/

structure FunctionReading where
  /-- Every method that is given; more than one is reported later. -/
  methods : List MethodUse
  marks : List FunctionMark
  settings : FunctionSettings
  passthrough : List AnnotationUse
deriving Repr, Inhabited

def Word.method? : Word → Option HttpMethod
  | .get => some .get
  | .post => some .post
  | .put => some .put
  | .delete => some .delete
  | .patch => some .patch
  | .head => some .head
  | .options => some .options
  | _ => none

def AnnotationUse.readMethod? (a : AnnotationUse) : Option MethodUse :=
  match a.word? with
  | some .http =>
    some ⟨.ofVerb (a.text "method" ""), a.textOf ["path", "value"] "", a.flag "hasBody" false⟩
  | some w => w.method?.map fun m => ⟨m, a.textOf ["value", "path"] "", false⟩
  | none => none

def AnnotationUse.readMark? (a : AnnotationUse) : Option FunctionMark :=
  match a.word? with
  | some .header => some (.header (a.text "name" "") (a.text "value" ""))
  | some .headers => some (.headers (a.texts "value"))
  | some .cookie => some (.cookie a.readCookie)
  | some .fragment => some (.fragment (a.text "value" "") a.encoded)
  | some .formUrlEncoded => some .formUrlEncoded
  | some .multipart => some .multipart
  | _ => none

def AnnotationUse.readFunctionSettings (a : AnnotationUse) : FunctionSettings :=
  { generate := a.flag "generate" true
    propagateAnnotations := a.flag "propagateAnnotations" true
    annotations := a.classNames "annotations"
    optInAnnotations := a.classNames "optInAnnotations"
    customHeader := a.text "customHeader" "" }

/-- The settings after one more use: the last settings stand, and an ignored function
    is left out from then on. -/
def FunctionSettings.after (s : FunctionSettings) (a : AnnotationUse) : FunctionSettings :=
  match a.word? with
  | some .ktorGenFunction => a.readFunctionSettings
  | some .ktorGenIgnore => { s with generate := false }
  | _ => s

def passthroughOf (uses : List AnnotationUse) : List AnnotationUse :=
  uses.filter fun a => !isVocabulary a.qualifiedName

def readFunctionAnnotations (uses : List AnnotationUse) : FunctionReading :=
  { methods := uses.filterMap AnnotationUse.readMethod?
    marks := uses.filterMap AnnotationUse.readMark?
    settings := uses.foldl FunctionSettings.after .default
    passthrough := passthroughOf uses }

/-- The header text of a multiplatform factory, when the uses mark one. -/
def readFactoryHeader (uses : List AnnotationUse) : Option String :=
  (uses.find? fun a => a.word? == some .ktorGenFunctionKmp).map fun a => a.text "customHeader" ""

/-! ### Parameters -/

def AnnotationUse.readRole? (parameter : String) (a : AnnotationUse) : Option Role :=
  match a.word? with
  | some .body => some .body
  | some .url => some .url
  | some .path => some (.path (a.nameOr "value" parameter) a.encoded)
  | some .query => some (.query (a.nameOr "value" parameter) a.encoded)
  | some .queryName => some (.queryName a.encoded)
  | some .queryMap => some (.queryMap a.encoded)
  | some .field => some (.field (a.nameOr "value" parameter) a.encoded)
  | some .fieldMap => some (.fieldMap a.encoded)
  | some .headerParam | some .header =>
    let name := a.textOf ["name", "value"] ""
    some (.header (if isUnset name then "" else name))
  | some .headerMap => some .headerMap
  | some .part => some (.part (a.nameOr "value" parameter) (a.text "encoding" "binary"))
  | some .partMap => some (.partMap (a.text "encoding" "binary"))
  | some .tag => some (.tag (a.nameOr "value" parameter))
  | some .fragment => some (.fragment a.encoded)
  | some .cookie => some (.cookie a.readCookie)
  | _ => none

/-- Read the annotations of a parameter: its roles and what is passed through. -/
def readParameterAnnotations (uses : List AnnotationUse) (parameter : String) :
    List Role × List AnnotationUse :=
  (uses.filterMap (AnnotationUse.readRole? parameter), passthroughOf uses)

/-! ### Classes -/

def AnnotationUse.readClassSettings (a : AnnotationUse) : ClassSettings :=
  let d := ClassSettings.default
  let visibility := a.text "visibilityModifier" d.visibility
  { name := a.text "name" d.name
    basePath := a.text "basePath" ""
    generate := a.flag "generate" d.generate
    topLevelFactory := a.flag "generateTopLevelFunction" d.topLevelFactory
    companionFactory := a.flag "generateCompanionExtFunction" d.companionFactory
    httpClientFactory := a.flag "generateHttpClientExtension" d.httpClientFactory
    propagateAnnotations := a.flag "propagateAnnotations" d.propagateAnnotations
    annotations := a.classNames "annotations"
    optInAnnotations := a.classNames "optInAnnotations"
    functionAnnotations := a.classNames "functionAnnotations"
    visibility := visibility
    classVisibility := a.text "classVisibilityModifier" visibility
    constructorVisibility := a.text "constructorVisibilityModifier" visibility
    functionVisibility := a.text "functionVisibilityModifier" visibility
    customFileHeader := a.text "customFileHeader" ""
    customClassHeader := a.text "customClassHeader" "" }

def FactoryNames.after (names : FactoryNames) (a : AnnotationUse) : FactoryNames :=
  match a.word? with
  | some .topLevelFactory => { names with topLevel := some (a.text "name" unsetMark) }
  | some .companionFactory => { names with companion := some (a.text "name" "create") }
  | some .httpClientFactory => { names with httpClient := some (a.text "name" unsetMark) }
  | _ => names

/-- Read the annotations of a class: the first settings given and the last name of
    each factory. -/
def readClassAnnotations (uses : List AnnotationUse) : Option ClassSettings × FactoryNames :=
  ((uses.find? fun a => a.word? == some .ktorGen).map AnnotationUse.readClassSettings,
    uses.foldl FactoryNames.after ⟨none, none, none⟩)

end ClientGen
