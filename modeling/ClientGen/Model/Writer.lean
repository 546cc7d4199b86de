/-
  ClientGen/Model/Writer.lean
  ===========================
  **Writing models.**

  Alternatives are objects with a `kind`; every other field is written under its own
  name, an absent value as null.
-/
import ClientGen.Declaration.Writer
import ClientGen.Model.Interface
import ClientGen.Options

namespace ClientGen

open ClientGen.Path

/-! ### Vocabulary -/

def HttpMethod.toJson : HttpMethod → Json
  | .get => .str "get"
  | .post => .str "post"
  | .put => .str "put"
  | .delete => .str "delete"
  | .patch => .str "patch"
  | .head => .str "head"
  | .options => .str "options"
  | .custom verb => .obj [("custom", .str verb)]
  | .absent => .str "absent"

def MethodUse.toJson (m : MethodUse) : Json :=
  .obj [("method", m.method.toJson), ("path", .str m.path), ("hasBody", .bool m.hasBody)]

def CookieValue.toJson : CookieValue → Json
  | .fromParameter => .str "fromParameter"
  | .literal value => .obj [("literal", .str value)]

def optionalInt : Option Int → Json
  | none => .null
  | some n => .int n

def Cookie.toJson (c : Cookie) : Json :=
  .obj [("name", .str c.name), ("value", c.value.toJson), ("maxAge", .int c.maxAge),
    ("expiresTimestamp", optionalInt c.expires), ("domain", .str c.domain),
    ("path", .str c.path), ("secure", .bool c.secure), ("httpOnly", .bool c.httpOnly),
    ("extensions", .arr (c.extensions.map fun e => .arr [.str e.1, .str e.2]))]

/-- An alternative with its fields. -/
def alternative (kind : String) (fields : List (String × Json)) : Json :=
  .obj (("kind", .str kind) :: fields)

def FunctionMark.toJson : FunctionMark → Json
  | .header name value => alternative "header" [("name", .str name), ("value", .str value)]
  | .headers entries => alternative "headers" [("values", textsJson entries)]
  | .cookie c => alternative "cookie" [("cookie", c.toJson)]
  | .fragment value encoded =>
    alternative "fragment" [("value", .str value), ("encoded", .bool encoded)]
  | .formUrlEncoded => alternative "formUrlEncoded" []
  | .multipart => alternative "multipart" []

def Role.fields : Role → List (String × Json)
  | .body | .url | .headerMap => []
  | .path name encoded | .query name encoded | .field name encoded =>
    [("value", .str name), ("encoded", .bool encoded)]
  | .queryName encoded | .queryMap encoded | .fieldMap encoded | .fragment encoded =>
    [("encoded", .bool encoded)]
  | .header name => [("name", .str name)]
  | .part name encoding => [("value", .str name), ("encoding", .str encoding)]
  | .partMap encoding => [("encoding", .str encoding)]
  | .tag name => [("value", .str name)]
  | .cookie c => [("cookie", c.toJson)]

def Role.toJson (r : Role) : Json :=
  alternative r.kind.label r.fields

def FunctionSettings.toJson (s : FunctionSettings) : Json :=
  .obj [("generate", .bool s.generate), ("propagateAnnotations", .bool s.propagateAnnotations),
    ("annotations", textsJson s.annotations), ("optInAnnotations", textsJson s.optInAnnotations),
    ("customHeader", .str s.customHeader)]

def ClassSettings.toJson (s : ClassSettings) : Json :=
  .obj [("name", .str s.name), ("basePath", .str s.basePath), ("generate", .bool s.generate),
    ("generateTopLevelFunction", .bool s.topLevelFactory),
    ("generateCompanionExtFunction", .bool s.companionFactory),
    ("generateHttpClientExtension", .bool s.httpClientFactory),
    ("propagateAnnotations", .bool s.propagateAnnotations),
    ("annotations", textsJson s.annotations), ("optInAnnotations", textsJson s.optInAnnotations),
    ("functionAnnotations", textsJson s.functionAnnotations),
    ("visibilityModifier", .str s.visibility),
    ("classVisibilityModifier", .str s.classVisibility),
    ("constructorVisibilityModifier", .str s.constructorVisibility),
    ("functionVisibilityModifier", .str s.functionVisibility),
    ("customFileHeader", .str s.customFileHeader),
    ("customClassHeader", .str s.customClassHeader)]

def FactoryNames.toJson (n : FactoryNames) : Json :=
  .obj [("topLevel", optionalText n.topLevel), ("companion", optionalText n.companion),
    ("httpClient", optionalText n.httpClient)]

/-! ### Views -/

def Part.toJson : Path.Part → Json
  | .literal text => alternative "literal" [("value", .str text)]
  | .placeholder name => alternative "placeholder" [("value", .str name)]

def templateJson (t : Template) : Json :=
  .obj [("raw", .str t.raw), ("parts", .arr (t.parts.map Part.toJson))]

def ReturnKind.toJson : ReturnKind → Json
  | .unit => alternative "unit" []
  | .plain t => alternative "plain" [("inner", t.toJson)]
  | .result inner => alternative "result" [("inner", inner.toJson)]
  | .flow inner => alternative "flow" [("inner", inner.toJson)]
  | .builder => alternative "builder" []
  | .statement => alternative "statement" []
  | .unsupported => alternative "unsupported" []

def TypeShape.toJson (s : TypeShape) : Json :=
  .obj [("container", .str s.container.keyword), ("containerNullable", .bool s.containerNullable),
    ("element", s.element.toJson), ("elementNullable", .bool s.elementNullable)]

/-! ### Models -/

def optionalBuilder : Option BuilderKind → Json
  | none => .null
  | some k => .str k.keyword

def ParameterModel.toJson (p : ParameterModel) : Json :=
  .obj [("name", .str p.name), ("typeRef", p.type.toJson), ("isVararg", .bool p.isVararg),
    ("roles", .arr (p.roles.map Role.toJson)), ("builder", optionalBuilder p.builder),
    ("passthrough", annotationsJson p.passthrough)]

def FunctionModel.toJson (f : FunctionModel) : Json :=
  .obj [("name", .str f.name), ("returnType", f.returnType.toJson),
    ("returnKind", f.returnKind.toJson), ("isSuspend", .bool f.isSuspend),
    ("isAbstract", .bool f.isAbstract), ("generate", .bool f.generate),
    ("httpMethod", f.httpMethod.toJson), ("path", templateJson f.path),
    ("annotations", .arr (f.marks.map FunctionMark.toJson)),
    ("parameters", .arr (f.parameters.map ParameterModel.toJson)),
    ("options", f.settings.toJson), ("typeParameters", textsJson f.typeParameters),
    ("passthrough", annotationsJson f.passthrough)]

def ClassOptions.toJson (o : ClassOptions) : Json :=
  .obj [("generatedName", .str o.generatedName), ("basePath", .str o.basePath),
    ("generate", .bool o.generate), ("topLevelFactory", optionalText o.topLevelFactory),
    ("companionFactory", optionalText o.companionFactory),
    ("httpClientFactory", optionalText o.httpClientFactory),
    ("propagateAnnotations", .bool o.propagateAnnotations),
    ("annotations", textsJson o.annotations), ("optInAnnotations", textsJson o.optInAnnotations),
    ("functionAnnotations", textsJson o.functionAnnotations),
    ("classVisibility", .str o.classVisibility),
    ("constructorVisibility", .str o.constructorVisibility),
    ("functionVisibility", .str o.functionVisibility),
    ("customFileHeader", .str o.customFileHeader),
    ("customClassHeader", .str o.customClassHeader)]

def PropertyModel.toJson (p : PropertyModel) : Json :=
  .obj [("name", .str p.name), ("typeRef", p.type.toJson), ("mutable", .bool p.mutable)]

def companionJson : Option CompanionModel → Json
  | none => .null
  | some c => .obj [("name", .str c.name), ("hasKtorgen", .bool c.hasKtorGen)]

def ExpectFunction.toJson (e : ExpectFunction) : Json :=
  .obj [("name", .str e.name), ("packageName", .str e.packageName),
    ("visibility", .str e.visibility.keyword), ("isExpect", .bool e.isExpect),
    ("parameters", .arr (e.parameters.map fun p => .arr [.str p.1, p.2.toJson])),
    ("returnType", e.returnType.toJson), ("customHeader", .str e.customHeader),
    ("passthrough", annotationsJson e.passthrough), ("sourceFile", optionalText e.sourceFile)]

def InterfaceModel.toJson (m : InterfaceModel) : Json :=
  .obj [("qualifiedName", .str m.qualifiedName), ("simpleName", .str m.simpleName),
    ("packageName", .str m.packageName), ("visibility", .str m.visibility.keyword),
    ("options", m.options.toJson), ("supertypes", .arr (m.supertypes.map TypeRef.toJson)),
    ("properties", .arr (m.properties.map PropertyModel.toJson)),
    ("clientProperty", optionalText m.clientProperty),
    ("functions", .arr (m.functions.map FunctionModel.toJson)),
    ("companion", companionJson m.companion),
    ("ktorgenOnInterface", .bool m.ktorGenOnInterface),
    ("expectFunctions", .arr (m.expectFunctions.map ExpectFunction.toJson)),
    ("imports", textsJson m.imports), ("sourceFile", .str m.sourceFile)]

def Options.toJson (o : ClientGen.Options) : Json :=
  .obj [("checkLevel", .str o.checkLevel.keyword), ("printStacktrace", .bool o.printCauses),
    ("experimental", .bool o.experimental), ("maxDeferredRounds", .int o.maxDeferredRounds)]

end ClientGen
