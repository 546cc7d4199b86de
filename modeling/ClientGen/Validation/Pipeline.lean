/-
  ClientGen/Validation/Pipeline.lean
  ==================================
  **All checks of an interface.**

  A pipeline is a list of rule sets.  Every one of them runs, each in a step of its own,
  and the interface is accepted when none reported an error.  Only an empty pipeline is
  a defect.  The checks are the rule sets that there are.
-/
import ClientGen.Validation.Body
import ClientGen.Validation.ClassLevel
import ClientGen.Validation.Factories
import ClientGen.Validation.Headers
import ClientGen.Validation.Parameters
import ClientGen.Validation.Paths
import ClientGen.Validation.Types
import ClientGen.Validation.Urls

namespace ClientGen

/-! ### Checks -/

inductive Check where
  | classLevel
  | factories
  | typeVariables
  | returnTypes
  | paths
  | queries
  | urls
  | headReturnTypes
  | headers
  | bodies
  | formBodies
  | multipartBodies
  | cookies
deriving DecidableEq, Repr, Inhabited

namespace Check

/-- Every check, in the order in which they run by default. -/
def all : List Check :=
  [.classLevel, .factories, .typeVariables, .returnTypes, .paths, .queries, .urls,
   .headReturnTypes, .headers, .bodies, .formBodies, .multipartBodies, .cookies]

def name : Check → String
  | .classLevel => "Class Level"
  | .factories => "Expect Functions"
  | .typeVariables => "Type Parameters and Wildcards"
  | .returnTypes => "Return Type"
  | .paths => "Path Parameters"
  | .queries => "Query Parameters"
  | .urls => "Url Syntax"
  | .headReturnTypes => "HEAD Return Type"
  | .headers => "Headers"
  | .bodies => "Body Usage"
  | .formBodies => "Form Url Encoded"
  | .multipartBodies => "Multipart"
  | .cookies => "Cookies"

def findings (check : Check) (c : Context) : List Finding :=
  match check with
  | .classLevel => Validation.classLevel c
  | .factories => Validation.factories c
  | .typeVariables => Validation.typeVariables c
  | .returnTypes => Validation.returnTypes c
  | .paths => Validation.paths c
  | .queries => Validation.queries c
  | .urls => Validation.urls c
  | .headReturnTypes => Validation.headReturnTypes c
  | .headers => Validation.headers c
  | .bodies => Validation.bodies c
  | .formBodies => Validation.formBodies c
  | .multipartBodies => Validation.multipartBodies c
  | .cookies => Validation.cookies c

def named? (name : String) : Option Check :=
  all.find? fun check => check.name == name

end Check

/-! ### Rule sets -/

/-- A rule set: its name, and what it remarks about an interface. -/
structure RuleSet where
  name : String
  remarks : Context → List Remark

def Check.ruleSet (check : Check) : RuleSet where
  name := check.name
  remarks c := (check.findings c).map Finding.remark

def RuleSet.run (rules : RuleSet) (c : Context) : StepM Nat :=
  StepM.task rules.name do
    (rules.remarks c).forM Remark.record
    return (rules.remarks c).countP Remark.isError

/-! ### Pipeline -/

def runRules (c : Context) : List RuleSet → StepM Nat
  | [] => return 0
  | rules :: others => do
    let errors ← rules.run c
    let rest ← runRules c others
    return errors + rest

/-- Run every rule set and hand the model back when none reported an error. -/
def validateBy (pipeline : List RuleSet) (model : InterfaceModel) (options : Options) :
    StepM (Option InterfaceModel) := do
  if pipeline.isEmpty then
    throw (.defect "ValidatorPipeline must have at least one validator")
  let errors ← runRules ⟨model, options⟩ pipeline
  return if errors = 0 then some model else none

def validate (checks : List Check) (model : InterfaceModel) (options : Options) :
    StepM (Option InterfaceModel) :=
  validateBy (checks.map Check.ruleSet) model options

end ClientGen
