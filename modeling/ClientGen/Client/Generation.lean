/-
  ClientGen/Client/Generation.lean
  ================================
  **All files of an interface.**

  The main file holds the class, its factories and what stands behind multiplatform
  factories of the same package.
-/
import ClientGen.Client.Actual
import ClientGen.Options
import ClientGen.Vocabulary.Word

namespace ClientGen.Client

open ClientGen.Code ClientGen.Text

/-! ### Files -/

/-- The names of a file before anything is written: the imports of the source file
    except those of the vocabulary. -/
def writeSourceImports (m : InterfaceModel) : NameM Unit :=
  (m.imports.filter fun i => !isVocabulary i).forM addSourceImport

def mainDependencies (m : InterfaceModel) : List String :=
  withoutRepetitions (m.sourceFile :: m.expectFunctions.filterMap ExpectFunction.sourceFile)

def mainFile (m : InterfaceModel) (names : ImportTable) (c : Code.Class)
    (functions : List Function) : SourceFile :=
  { package := m.packageName
    fileName := m.options.generatedName ++ ".kt"
    file := fileOf m m.packageName names.lines [c] functions
    dependencies := mainDependencies m }

/-! ### Generation -/

def generateActuals (m : InterfaceModel) (options : Options) (factories : List Factory)
    (names : ImportTable) : StepM (Actuals × ImportTable) := do
  if options.experimental then
    let (actuals, names) := (writeActuals m factories).run names
    recordAll actuals.findings
    return (actuals, names)
  else return (.start factories, names)

/-- Generate the files of an accepted interface. -/
def generate (m : InterfaceModel) (options : Options) (registry : FactoryRegistry) :
    StepM (List SourceFile × FactoryRegistry) := do
  let (_, names) := (writeSourceImports m).run (.empty m.packageName)
  let (c, names) ← generateClass m names
  let (enrollment, names) ← generateFactories m registry names
  let (actuals, names) ← generateActuals m options enrollment.enrolled names
  let main := mainFile m names c (actuals.factories.map Factory.function ++ actuals.functions)
  StepM.note ("Generated " ++ main.path)
  return (main :: actuals.files, enrollment.registry)

end ClientGen.Client
