/-
  ClientGen/Client/Actual.lean
  ============================
  **What stands behind multiplatform factories.**

  A declared function with the signature of a generated factory turns that factory into
  its `actual`.  Any other one has to take what the constructor takes and gets a
  function of its own, in a file of its own when its package differs.
-/
import ClientGen.Client.Factory
import ClientGen.Client.SourceFile

namespace ClientGen.Client

open ClientGen.Code ClientGen.Text

/-! ### Matching -/

def expectSymbol (e : ExpectFunction) : String :=
  e.packageName ++ "." ++ e.name

def expectKey (e : ExpectFunction) : FactoryKey :=
  ⟨e.name, e.packageName, e.parameters.map fun p => p.2.display⟩

def onExpect (severity : Severity) (e : ExpectFunction) (problem : Problem) : Finding :=
  ⟨severity, problem, none, some (expectSymbol e)⟩

/-- The first type that differs, with its position. -/
def typeMismatch? (name : String) : Nat → List ConstructorParam → List (String × TypeRef) →
    Option Problem
  | position, p :: ps, q :: qs =>
    if p.type.sameType q.2 then typeMismatch? name (position + 1) ps qs
    else some (.parameterType position name p.type.display q.2.display)
  | _, _, _ => none

/-- What keeps a declared function from calling the constructor. -/
def mismatch? (m : InterfaceModel) (e : ExpectFunction) : Option Problem :=
  let params := constructorParams m
  if params.length ≠ e.parameters.length then
    some (.parameterCount m.options.generatedName e.name e.parameters.length params.length)
  else typeMismatch? e.name 0 params e.parameters

/-! ### Functions -/

def actualWord : String := "actual"

def writeActual (m : InterfaceModel) (e : ExpectFunction) : NameM Function := do
  let annotations ← writeFactoryAnnotations m.options
  let copied ← e.passthrough.mapM writeMarkedUse
  let params ← e.parameters.mapM writeParam
  let returnType ← writeType e.returnType
  return {
    doc := if isBlank e.customHeader then none else some e.customHeader
    annotations := annotations ++ copied
    modifiers := [e.visibility.keyword, actualWord]
    receiver := none
    name := e.name
    params := params
    returnType := some returnType
    body := [constructorCall m (e.parameters.map Prod.fst)] }

/-- The function and the import of the class that it constructs. -/
def writeForeignActual (m : InterfaceModel) (e : ExpectFunction) : NameM Function := do
  let function ← writeActual m e
  let _ ← writeName (m.packageName ++ "." ++ m.options.generatedName)
  return function

def actualFile (m : InterfaceModel) (e : ExpectFunction) : SourceFile :=
  let (function, names) := (writeForeignActual m e).run (.empty e.packageName)
  { package := e.packageName
    fileName := "_" ++ e.name ++ "KmpActual.kt"
    file := fileOf m e.packageName names.lines [] [function]
    dependencies := m.sourceFile :: e.sourceFile.toList }

/-! ### All declared functions -/

/-- What was found and written for declared functions. -/
structure Actuals where
  /-- The factories of the interface; some are marked `actual`. -/
  factories : List Factory
  /-- Functions in the package of the interface. -/
  functions : List Function
  /-- Files of functions in other packages. -/
  files : List SourceFile
  findings : List Finding
deriving Repr, Inhabited

def Actuals.start (factories : List Factory) : Actuals :=
  ⟨factories, [], [], []⟩

def Factory.asActual (f : Factory) : Factory :=
  { f with function := { f.function with modifiers := f.function.modifiers ++ [actualWord] } }

/-- Mark the first factory with a key `actual`. -/
def markActual (key : FactoryKey) : List Factory → List Factory
  | [] => []
  | f :: fs => if f.key = key then f.asActual :: fs else f :: markActual key fs

def Actuals.add (m : InterfaceModel) (a : Actuals) (e : ExpectFunction) : NameM Actuals := do
  match a.factories.find? fun f => f.key == expectKey e with
  | some factory =>
    return { a with
      factories := markActual (expectKey e) a.factories
      findings := a.findings
        ++ [onExpect .warning e (.factoryBecomesActual e.name factory.kind.label)] }
  | none =>
    match mismatch? m e with
    | some problem => return { a with findings := a.findings ++ [onExpect .error e problem] }
    | none =>
      if e.packageName = m.packageName then
        let function ← writeActual m e
        return { a with functions := a.functions ++ [function] }
      else return { a with files := a.files ++ [actualFile m e] }

/-- Add every function of an interface that is declared `expect`. -/
def writeActuals (m : InterfaceModel) (factories : List Factory) : NameM Actuals :=
  (m.expectFunctions.filter fun e => e.isExpect).foldlM (Actuals.add m) (.start factories)

end ClientGen.Client
