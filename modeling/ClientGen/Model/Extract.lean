/-
  ClientGen/Model/Extract.lean
  ============================
  **From declarations to models.**

  Extraction never checks rules of requests.  It dies of unsupported declarations,
  defers what names unresolved types, and rejects what cannot become a model after
  recording why.
-/
import ClientGen.Diagnostics.Log
import ClientGen.Diagnostics.Problem
import ClientGen.Model.Interface
import ClientGen.Vocabulary.Reader

namespace ClientGen

open ClientGen.Path ClientGen.Text

/-! ### Parameters -/

/-- A function type is run on the builder when it extends the builder, takes nothing,
    returns nothing and does not suspend. -/
def FunctionType.isBuilderLambda (f : FunctionType) : Bool :=
  f.receiver.any (fun r => r.is TypeName.httpRequestBuilder && !r.nullable)
    && f.parameters.isEmpty && f.returnType.is TypeName.unit && !f.suspending

def BuilderKind.of? (t : TypeRef) : Option BuilderKind :=
  match t.function with
  | some f => if f.isBuilderLambda then some .lambda else none
  | none =>
    if t.is TypeName.httpRequestBuilder || t.is TypeName.httpRequest
        || t.is TypeName.httpRequestData then
      some .takeFrom
    else none

/-- The model of a parameter; an explicit role wins over the type of a builder. -/
def ParameterDeclaration.model (p : ParameterDeclaration) : ParameterModel :=
  let (roles, passthrough) := readParameterAnnotations p.annotations p.name
  { name := p.name
    type := p.type
    isVararg := p.isVararg
    roles := roles
    builder := if roles.isEmpty then BuilderKind.of? p.type else none
    passthrough := passthrough }

/-! ### Functions -/

/-- The path of a function: the base path joined with the path of the method.  An
    absolute path stands alone, and an empty one beside a parameter that gives the URL
    leaves everything to that parameter. -/
def effectivePath (basePath methodPath : String) (hasUrl : Bool) : String :=
  if methodPath.isEmpty && hasUrl then ""
  else if startsWith methodPath "http://" || startsWith methodPath "https://" then methodPath
  else basePath ++ methodPath

def reportError (problem : Problem) (symbol : String) : StepM Unit :=
  StepM.err problem.message (some symbol)

/-- The cookies of a function that have no value of their own. -/
def FunctionReading.unvaluedCookies (r : FunctionReading) : List Cookie :=
  (r.marks.filterMap FunctionModel.markCookie?).filter fun c => c.value == .fromParameter

def FunctionDeclaration.modelWith (f : FunctionDeclaration) (reading : FunctionReading)
    (returnType : TypeRef) (basePath : String) : FunctionModel :=
  let parameters := f.parameters.map ParameterDeclaration.model
  let method := reading.methods.head?.getD .absent
  let hasUrl := parameters.any fun p => p.hasRole .url
  let isAbstract := f.hasModifier .abstractMember
  { name := f.name
    returnType := returnType
    returnKind := .classify returnType
    isSuspend := f.hasModifier .suspending
    isAbstract := isAbstract
    generate := isAbstract && reading.settings.generate
    httpMethod := method
    path := Template.parse (effectivePath basePath method.path hasUrl)
    marks := reading.marks
    parameters := parameters
    settings := reading.settings
    typeParameters := f.typeParameters
    passthrough := reading.passthrough }

/-- Build the model of a function, nothing when an error was recorded for it. -/
def FunctionDeclaration.extract (f : FunctionDeclaration) (basePath owner : String) :
    StepM (Option FunctionModel) := do
  let symbol := owner ++ "." ++ f.name
  let reading := readFunctionAnnotations f.annotations
  if 1 < reading.methods.length then
    reportError .severalMethods symbol
  match f.returnType with
  | none =>
    reportError .noReturnType symbol
    return none
  | some returnType =>
    for c in reading.unvaluedCookies do
      reportError (.cookieWithoutValue c.name) symbol
    if 1 < reading.methods.length || !reading.unvaluedCookies.isEmpty then
      return none
    return some (f.modelWith reading returnType basePath)

/-! ### Candidates -/

namespace ClassDeclaration

def ownSettings (c : ClassDeclaration) : Option ClassSettings × FactoryNames :=
  readClassAnnotations c.annotations

def companionSettings (c : ClassDeclaration) : Option ClassSettings × FactoryNames :=
  match c.companion with
  | some companion => readClassAnnotations companion.annotations
  | none => (none, ⟨none, none, none⟩)

def usesVocabulary (c : ClassDeclaration) : Bool :=
  c.functions.any fun f => f.annotations.any fun a => isVocabulary a.qualifiedName

/-- The round looks at everything with settings, and at interfaces with a function
    that uses the vocabulary. -/
def isCandidate (c : ClassDeclaration) : Bool :=
  c.kind != .companionKind
    && (c.ownSettings.1.isSome || c.companionSettings.1.isSome
      || (c.kind == .interfaceKind && c.usesVocabulary))

def isExpectOrExternal (c : ClassDeclaration) : Bool :=
  c.hasModifier .expect || c.hasModifier .externalMember

end ClassDeclaration

def FunctionDeclaration.isExpectOrExternal (f : FunctionDeclaration) : Bool :=
  f.hasModifier .expect || f.hasModifier .externalMember

/-! ### Unresolved types -/

def FunctionDeclaration.unresolved (f : FunctionDeclaration) (names : List String) :
    List String :=
  let names := TypeRef.unresolvedOption f.returnType names
  f.parameters.foldl (fun names p => p.type.unresolved names) names

/-- The names of the unresolved types of a declaration and of the factories that return
    it, in reading order. -/
def unresolvedNames (c : ClassDeclaration) (factories : List FunctionDeclaration) :
    List String :=
  let names := c.supertypes.foldl (fun names t => t.unresolved names) []
  let names := c.properties.foldl (fun names p => p.type.unresolved names) names
  (c.functions ++ factories).foldl (fun names f => f.unresolved names) names

/-! ### Settings -/

def FactoryNames.or (a b : FactoryNames) : FactoryNames :=
  ⟨a.topLevel.or b.topLevel, a.companion.or b.companion, a.httpClient.or b.httpClient⟩

def factoryName (wanted : Bool) (given : Option String) (default : String) : Option String :=
  if wanted || given.isSome then some (nameOr (given.getD "") default) else none

def setOr (value fallback : String) : String :=
  if isUnset value then fallback else value

def ClassDeclaration.options (c : ClassDeclaration) (s : ClassSettings) (names : FactoryNames) :
    ClassOptions :=
  let simple := c.simpleName
  let visibility := setOr s.visibility c.visibility.keyword
  { generatedName := nameOr s.name ("_" ++ simple ++ "Impl")
    basePath := s.basePath
    generate := s.generate
    topLevelFactory := factoryName s.topLevelFactory names.topLevel simple
    companionFactory := factoryName s.companionFactory names.companion "create"
    httpClientFactory := factoryName s.httpClientFactory names.httpClient ("create" ++ simple)
    propagateAnnotations := s.propagateAnnotations
    annotations := s.annotations
    optInAnnotations := s.optInAnnotations
    functionAnnotations := s.functionAnnotations
    classVisibility := setOr s.classVisibility visibility
    constructorVisibility := setOr s.constructorVisibility visibility
    functionVisibility := setOr s.functionVisibility visibility
    customFileHeader := s.customFileHeader
    customClassHeader := s.customClassHeader }

/-! ### Properties and factories -/

/-- The property holds a client that is never null. -/
def PropertyDeclaration.holdsClient (p : PropertyDeclaration) : Bool :=
  p.type.is TypeName.httpClient && !p.type.nullable

def PropertyDeclaration.model (p : PropertyDeclaration) : PropertyModel :=
  ⟨p.name, p.type, p.mutable⟩

/-- Set the first property that holds a client apart from the others. -/
def splitClient : List PropertyDeclaration → Option String × List PropertyModel
  | [] => (none, [])
  | p :: ps =>
    if p.holdsClient then (some p.name, ps.map PropertyDeclaration.model)
    else
      let (client, rest) := splitClient ps
      (client, p.model :: rest)

def FunctionDeclaration.expectFunction? (f : FunctionDeclaration) : Option ExpectFunction :=
  f.returnType.map fun returnType =>
    { name := f.name
      packageName := f.package
      visibility := f.visibility
      isExpect := f.hasModifier .expect
      parameters := f.parameters.map fun p => (p.name, p.type)
      returnType := returnType
      customHeader := (readFactoryHeader f.annotations).getD ""
      passthrough := passthroughOf f.annotations
      sourceFile := f.file.map FileRef.path }

/-! ### Interfaces -/

inductive Extraction where
  | ready (model : InterfaceModel)
  /-- The names of unresolved types. -/
  | deferred (names : List String)
  /-- Errors were recorded. -/
  | rejected
  /-- The settings say not to generate. -/
  | skipped
deriving Repr, Inhabited

def ClassDeclaration.modelWith (c : ClassDeclaration) (factories : List FunctionDeclaration)
    (file : FileRef) (options : ClassOptions) (functions : List FunctionModel) :
    InterfaceModel :=
  let (clientProperty, properties) := splitClient c.properties
  { qualifiedName := c.qualifiedName
    simpleName := c.simpleName
    packageName := c.package
    visibility := c.visibility
    options := options
    supertypes := c.supertypes.filter fun t => !t.isAny
    properties := properties
    clientProperty := clientProperty
    functions := functions
    companion := c.companion.map fun companion =>
      ⟨companion.name, c.companionSettings.1.isSome⟩
    ktorGenOnInterface := c.ownSettings.1.isSome
    expectFunctions := factories.filterMap FunctionDeclaration.expectFunction?
    imports := file.imports
    sourceFile := file.path }

def extractFunctions (basePath owner : String) :
    List FunctionDeclaration → StepM (List FunctionModel)
  | [] => return []
  | f :: fs => do
    let model ← f.extract basePath owner
    let rest ← extractFunctions basePath owner fs
    return model.toList ++ rest

def ClassDeclaration.extractResolved (c : ClassDeclaration)
    (factories : List FunctionDeclaration) (file : FileRef) : StepM Extraction := do
  let settings := (c.ownSettings.1.or c.companionSettings.1).getD .default
  if !settings.generate then
    StepM.note "Skipped, generate = false"
    return .skipped
  let options := c.options settings (c.ownSettings.2.or c.companionSettings.2)
  let before ← StepM.errorCount
  let functions ← extractFunctions options.basePath c.qualifiedName c.functions
  if before < (← StepM.errorCount) then
    return .rejected
  StepM.note ("Extracted " ++ toString functions.length ++ " function(s)")
  return .ready (c.modelWith factories file options functions)

/-- Extract a declaration; `factories` are the multiplatform factories that return
    it. -/
def ClassDeclaration.extract (c : ClassDeclaration) (factories : List FunctionDeclaration) :
    StepM Extraction := do
  let symbol := c.qualifiedName
  if c.isExpectOrExternal then
    StepM.die (Problem.expectOrExternal symbol).message (some symbol)
  if let some f := c.functions.find? FunctionDeclaration.isExpectOrExternal then
    let inner := symbol ++ "." ++ f.name
    StepM.die (Problem.expectOrExternal inner).message (some inner)
  if c.kind != .interfaceKind then
    reportError .typeNotAllowed symbol
    return .rejected
  match c.file with
  | none =>
    reportError .noFile symbol
    return .rejected
  | some file =>
    match unresolvedNames c factories with
    | [] => c.extractResolved factories file
    | names =>
      StepM.note ("Deferred, unresolved: " ++ join ", " names)
      return .deferred names

end ClientGen
