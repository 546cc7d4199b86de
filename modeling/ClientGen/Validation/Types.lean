/-
  ClientGen/Validation/Types.lean
  ===============================
  **Types of functions and parameters.**

  Overrides cannot be generic; parameters may have star arguments, the return type
  may not.  A function that executes its request has to suspend, and the answer to a
  HEAD request has no body.
-/
import ClientGen.Validation.Finding

namespace ClientGen

open ClientGen.Text

/-! ### Type variables -/

mutual
def TypeRef.hasVariable : TypeRef → Bool
  | ⟨_, _, arguments, _, typeParameter, function⟩ =>
    typeParameter || TypeArgument.anyVariable arguments
      || (match function with
          | some f => f.hasVariable
          | none => false)

def TypeArgument.anyVariable : List TypeArgument → Bool
  | [] => false
  | .star :: as => TypeArgument.anyVariable as
  | .type t :: as => t.hasVariable || TypeArgument.anyVariable as

def FunctionType.hasVariable : FunctionType → Bool
  | ⟨receiver, parameters, returnType, _⟩ =>
    (match receiver with
      | some r => r.hasVariable
      | none => false)
      || TypeRef.anyVariable parameters || returnType.hasVariable

def TypeRef.anyVariable : List TypeRef → Bool
  | [] => false
  | t :: ts => t.hasVariable || TypeRef.anyVariable ts
end

namespace Validation

def typeVariableFindings (c : Context) (f : FunctionModel) : List Finding :=
  whenever (!f.typeParameters.isEmpty)
      (c.error f (.typeVariable ("<" ++ join ", " f.typeParameters ++ ">")))
    ++ whenever f.returnType.hasVariableOrStar
        (c.error f (.typeVariable f.returnType.display))
    ++ f.parameters.flatMap fun p =>
        whenever p.type.hasVariable (c.parameterError f p (.typeVariable p.type.display))

def typeVariables (c : Context) : List Finding :=
  c.functions.flatMap (typeVariableFindings c)

/-! ### Return types -/

/-- Findings about functions that execute their request without suspending. -/
def returnTypes (c : Context) : List Finding :=
  c.functions.flatMap fun f =>
    whenever (!f.isSuspend && !f.returnKind.isNonSuspending)
      (c.error f (.notSuspending f.returnType.display))

/-- Findings about HEAD functions that return something. -/
def headReturnTypes (c : Context) : List Finding :=
  c.functions.flatMap fun f =>
    whenever (f.httpMethod.method == .head && !f.returnKind.isUnit) (c.error f .headReturnsBody)

end Validation

end ClientGen
