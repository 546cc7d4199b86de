/-
  ClientGen/Validation/Finding.lean
  =================================
  **What a check reports.**

  A finding is a problem with its weight, the declaration it is about, and for a
  function the signature that is shown below the message.  A remark is what a finding
  leaves in the log, whatever problem it was.
-/
import ClientGen.Diagnostics.Log
import ClientGen.Diagnostics.Problem
import ClientGen.Model.Interface
import ClientGen.Options

namespace ClientGen

/-! ### Remarks -/

/-- A message about a declaration as it is recorded. -/
structure Remark where
  severity : Severity
  message : String
  symbol : Option String
deriving DecidableEq, Repr, Inhabited

namespace Remark

def isError (r : Remark) : Bool :=
  r.severity == .error

/-- Record the remark in the current step; progress is about no declaration. -/
def record (r : Remark) : StepM Unit :=
  StepM.raise r.severity r.message (if r.severity = .step then none else r.symbol)

end Remark

/-! ### Findings -/

structure Finding where
  severity : Severity
  problem : Problem
  /-- The signature of the function that the finding is about. -/
  signature : Option String
  symbol : Option String
deriving DecidableEq, Repr, Inhabited

namespace Finding

def message (f : Finding) : String :=
  f.problem.message
    ++ (match f.signature with | some s => "\nDeclaration: " ++ s | none => "")

def isError (f : Finding) : Bool :=
  f.severity == .error

def isWarning (f : Finding) : Bool :=
  f.severity == .warning

def remark (f : Finding) : Remark :=
  ⟨f.severity, f.message, f.symbol⟩

def record (f : Finding) : StepM Unit :=
  f.remark.record

end Finding

def recordAll : List Finding → StepM Unit
  | [] => return ()
  | f :: fs => do
    f.record
    recordAll fs

def errorsIn (fs : List Finding) : Nat :=
  (fs.filter Finding.isError).length

def warningsIn (fs : List Finding) : Nat :=
  (fs.filter Finding.isWarning).length

/-! ### Context -/

/-- What every check sees. -/
structure Context where
  model : InterfaceModel
  options : Options
deriving Repr, Inhabited

namespace Context

def functions (c : Context) : List FunctionModel :=
  c.model.generatedFunctions

def functionSymbol (c : Context) (f : FunctionModel) : String :=
  c.model.qualifiedName ++ "." ++ f.name

def onInterface (c : Context) (problem : Problem) : Finding :=
  ⟨.error, problem, none, some c.model.qualifiedName⟩

/-- A finding about a function, with one parameter highlighted. -/
def onFunction (c : Context) (severity : Severity) (f : FunctionModel)
    (highlight : Option String) (problem : Problem) : Finding :=
  ⟨severity, problem, some (f.signature c.model.simpleName highlight), some (c.functionSymbol f)⟩

def error (c : Context) (f : FunctionModel) (problem : Problem) : Finding :=
  c.onFunction .error f none problem

def warning (c : Context) (f : FunctionModel) (problem : Problem) : Finding :=
  c.onFunction .warning f none problem

def parameterError (c : Context) (f : FunctionModel) (p : ParameterModel) (problem : Problem) :
    Finding :=
  c.onFunction .error f (some p.name) problem

def parameterWarning (c : Context) (f : FunctionModel) (p : ParameterModel)
    (problem : Problem) : Finding :=
  c.onFunction .warning f (some p.name) problem

end Context

def whenever (condition : Bool) (f : Finding) : List Finding :=
  if condition then [f] else []

/-- Every parameter with a role of the kind has a map-like type. -/
def checkMapRole (c : Context) (f : FunctionModel) (kind : RoleKind) (stringValues : Bool)
    (problem : Problem) (p : ParameterModel) : List Finding :=
  whenever (p.hasRole kind && (p.mapShape? stringValues).isNone) (c.parameterError f p problem)

end ClientGen
