/-
  ClientGen/Validation/Paths.lean
  ===============================
  **Every placeholder is bound by exactly one path parameter.**
-/
import ClientGen.Ascending
import ClientGen.Validation.Finding

namespace ClientGen.Validation

/-! ### Bindings -/

/-- The placeholder that a parameter binds: the name of its first path role. -/
def boundName? (p : ParameterModel) : Option String :=
  match p.role? .path with
  | some (.path name _) => some name
  | _ => none

def bindingCount (f : FunctionModel) (placeholder : String) : Nat :=
  (f.parameters.filter fun p => boundName? p == some placeholder).length

/-! ### Findings -/

def placeholderFindings (c : Context) (f : FunctionModel) (placeholder : String) :
    List Finding :=
  match bindingCount f placeholder with
  | 0 => [c.error f (.missingPathFor f.httpMethod.path placeholder)]
  | 1 => []
  | _ => [c.error f (.placeholderBoundTwice f.httpMethod.path placeholder)]

def pathParameterFindings (c : Context) (f : FunctionModel) (p : ParameterModel) :
    List Finding :=
  match boundName? p with
  | none => []
  | some name =>
    whenever p.type.nullable (c.parameterError f p .nullablePath)
      ++ whenever (!f.path.placeholders.contains name)
          (c.parameterError f p (.missingPath f.httpMethod.path))

def boundPathFindings (c : Context) (f : FunctionModel) : List Finding :=
  let placeholders := f.path.placeholders
  let distinct := Ascending.ofNames placeholders
  whenever (!f.hasRole .path) (c.error f (.missingPath f.httpMethod.path))
    ++ whenever (distinct.length != placeholders.length)
        (c.error f (.duplicatePlaceholder f.httpMethod.path))
    ++ (if f.hasRole .path then distinct.flatMap (placeholderFindings c f) else [])
    ++ f.parameters.flatMap (pathParameterFindings c f)

def pathFindings (c : Context) (f : FunctionModel) : List Finding :=
  if f.path.placeholders.isEmpty then
    whenever (f.hasRole .path) (c.error f (.pathWithoutPlaceholders f.path.raw))
  else boundPathFindings c f

def paths (c : Context) : List Finding :=
  c.functions.flatMap (pathFindings c)

end ClientGen.Validation
