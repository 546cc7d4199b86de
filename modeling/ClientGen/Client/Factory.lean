/-
  ClientGen/Client/Factory.lean
  =============================
  **Functions that construct a generated class.**

  A top-level function, an extension of the companion and an extension of the client.
  No two factories of a round have the same name, package and parameter types: the
  registry enrolls the first and refuses the others.
-/
import ClientGen.Client.Implementation
import ClientGen.Validation.Finding

namespace ClientGen.Client

open ClientGen.Code ClientGen.Text

/-! ### Keys -/

/-- What tells generated top-level functions apart. -/
structure FactoryKey where
  name : String
  package : String
  /-- The receiver first, when there is one. -/
  parameterTypes : List String
deriving DecidableEq, Repr, Inhabited

def FactoryKey.display (k : FactoryKey) : String :=
  k.package ++ "." ++ k.name ++ "(" ++ join ", " k.parameterTypes ++ ")"

/-- The factories of a round, each once. -/
structure FactoryRegistry where
  keys : List FactoryKey
deriving DecidableEq, Repr, Inhabited

namespace FactoryRegistry

def empty : FactoryRegistry := ⟨[]⟩

def contains (r : FactoryRegistry) (k : FactoryKey) : Bool :=
  r.keys.contains k

def register (r : FactoryRegistry) (k : FactoryKey) : FactoryRegistry :=
  if r.contains k then r else ⟨k :: r.keys⟩

def size (r : FactoryRegistry) : Nat :=
  r.keys.length

end FactoryRegistry

/-! ### Parameter names -/

/-- The name without the underscores in front of it. -/
def shortName (name : String) : String :=
  String.ofList (name.toList.dropWhile (· == '_'))

/-- Every element with all others. -/
def withOthersFrom {α : Type} (before : List α) : List α → List (α × List α)
  | [] => []
  | x :: rest => (x, before ++ rest) :: withOthersFrom (before ++ [x]) rest

/-- The short name of a parameter, unless it is empty or meets another parameter's
    name or short name. -/
def factoryParamName (name : String) (others : List String) : String :=
  let short := shortName name
  if short.isEmpty || others.any (fun o => o == short || shortName o == short) then name else short

def factoryParamNames (names : List String) : List String :=
  (withOthersFrom [] names).map fun e => factoryParamName e.1 e.2

def factoryParams (m : InterfaceModel) : List (String × TypeRef) :=
  let params := constructorParams m
  (factoryParamNames (params.map ConstructorParam.name)).zip (params.map ConstructorParam.type)

/-! ### Kinds -/

/-- Where a factory stands. -/
inductive FactoryKind where
  | topLevel
  | companion
  | httpClient
deriving DecidableEq, Repr, Inhabited

def FactoryKind.label : FactoryKind → String
  | .topLevel => "top-level factory function"
  | .companion => "companion extension function"
  | .httpClient => "HttpClient extension function"

structure Factory where
  kind : FactoryKind
  key : FactoryKey
  function : Function
deriving Repr, Inhabited

/-! ### Writing -/

def constructorCall (m : InterfaceModel) (arguments : List String) : Statement :=
  .returning (some (m.options.generatedName ++ "(" ++ join ", " arguments ++ ")"))

def writeFactoryAnnotations (o : ClassOptions) : NameM (List String) := do
  let generated ← writeMarker Library.generated
  let markers ← o.functionAnnotations.mapM writeMarker
  let optIn ← writeOptIn o.optInAnnotations
  return generated :: markers ++ optIn

def writeParam (p : String × TypeRef) : NameM Param := do
  let type ← writeType p.2
  return .plain p.1 type

/-- The receiver of a factory, by its qualified name and as it is written. -/
structure Receiver where
  qualified : String
  written : String
deriving DecidableEq, Repr, Inhabited

def writeFactory (m : InterfaceModel) (interface : String) (kind : FactoryKind) (name : String)
    (receiver : Option Receiver) (params : List (String × TypeRef)) (arguments : List String) :
    NameM Factory := do
  let annotations ← writeFactoryAnnotations m.options
  let written ← params.mapM writeParam
  return {
    kind := kind
    key := ⟨name, m.packageName,
      (receiver.map Receiver.qualified).toList ++ params.map fun p => p.2.display⟩
    function := {
      doc := none
      annotations := annotations
      modifiers := [m.options.functionVisibility]
      receiver := receiver.map Receiver.written
      name := name
      params := written
      returnType := some interface
      body := [constructorCall m arguments] } }

def writeTopLevelFactory (m : InterfaceModel) (interface : String) : NameM (List Factory) := do
  match m.options.topLevelFactory with
  | none => return []
  | some name =>
    let params := factoryParams m
    return [← writeFactory m interface .topLevel name none params (params.map Prod.fst)]

def companionReceiver (m : InterfaceModel) (interface companion : String) : Receiver :=
  ⟨m.qualifiedName ++ "." ++ companion, interface ++ "." ++ companion⟩

def writeCompanionFactory (m : InterfaceModel) (interface : String) : NameM (List Factory) := do
  match m.options.companionFactory, m.companion with
  | some name, some companion =>
    let params := factoryParams m
    let receiver := companionReceiver m interface companion.name
    return [← writeFactory m interface .companion name (some receiver) params
      (params.map Prod.fst)]
  | _, _ => return []

/-- The factory that extends the client, when it is wanted; the receiver takes the place
    of the first parameter. -/
def writeClientFactory (m : InterfaceModel) (interface : String) : NameM (List Factory) := do
  match m.options.httpClientFactory with
  | none => return []
  | some name =>
    let params := (factoryParams m).drop 1
    let client ← writeName TypeName.httpClient
    let receiver := ⟨TypeName.httpClient, client⟩
    return [← writeFactory m interface .httpClient name (some receiver) params
      ("this" :: params.map Prod.fst)]

def writeFactories (m : InterfaceModel) : NameM (List Factory) := do
  let interface ← writeName m.qualifiedName
  let topLevel ← writeTopLevelFactory m interface
  let companion ← writeCompanionFactory m interface
  let client ← writeClientFactory m interface
  return topLevel ++ companion ++ client

def companionMissing (m : InterfaceModel) : Fatal :=
  .defect ("companion factory requested for " ++ m.qualifiedName ++ " without a companion object")

/-! ### Enrollment -/

/-- What a registry enrolls and refuses. -/
structure Enrollment where
  registry : FactoryRegistry
  enrolled : List Factory
  refused : List Factory
deriving Repr, Inhabited

/-- Enroll factories in order, refusing those whose key is taken. -/
def FactoryRegistry.enroll (r : FactoryRegistry) : List Factory → Enrollment
  | [] => ⟨r, [], []⟩
  | f :: fs =>
    let rest := (r.register f.key).enroll fs
    if r.contains f.key then { rest with refused := f :: rest.refused }
    else { rest with enrolled := f :: rest.enrolled }

def refusal (m : InterfaceModel) (f : Factory) : Finding :=
  ⟨.warning, .duplicateFactory f.kind.label f.key.display, none, some m.qualifiedName⟩

def generateFactories (m : InterfaceModel) (registry : FactoryRegistry) (names : ImportTable) :
    StepM (Enrollment × ImportTable) := do
  if m.options.companionFactory.isSome && m.companion.isNone then
    throw (companionMissing m)
  let (factories, names) := (writeFactories m).run names
  let enrollment := registry.enroll factories
  recordAll (enrollment.refused.map (refusal m))
  return (enrollment, names)

end ClientGen.Client
