/-
  ClientGen/Validation/ClassLevel.lean
  ====================================
  **Visibilities, companions, and the role of every parameter.**
-/
import ClientGen.Validation.Finding

namespace ClientGen.Validation

open ClientGen.Text

/-! ### Visibility -/

def visibilityFindings (c : Context) (value : String) (problem : String → Problem)
    (forbidPrivate : Bool) : List Finding :=
  match Visibility.parse? value with
  | none =>
    whenever (isBlank value) (c.onInterface (problem value))
      ++ [c.onInterface (.unknownVisibility value)]
  | some .protectedScope => [c.onInterface (problem value)]
  | some .privateScope => whenever forbidPrivate (c.onInterface (problem value))
  | some _ => []

/-- Two settings are reported at the companion. -/
def twoKtorGenFinding (c : Context) : Finding :=
  { severity := .error
    problem := .twoKtorGen
    signature := none
    symbol := c.model.companion.map fun k => c.model.qualifiedName ++ "." ++ k.name }

def settingsFindings (c : Context) : List Finding :=
  let o := c.model.options
  visibilityFindings c o.classVisibility .classVisibility false
    ++ visibilityFindings c o.constructorVisibility .constructorVisibility true
    ++ visibilityFindings c o.functionVisibility .factoryVisibility true
    ++ whenever (Visibility.parse? o.classVisibility == some .privateScope && !o.hasAnyFactory)
        (c.onInterface .privateClassWithoutFactory)
    ++ whenever (c.model.visibility == .privateScope)
        (c.onInterface (.privateInterface c.model.visibility.keyword))
    ++ whenever (o.companionFactory.isSome && !c.model.hasCompanion)
        (c.onInterface .missingCompanion)
    ++ whenever c.model.hasTwoKtorGen (twoKtorGenFinding c)

/-! ### Functions -/

/-- The roles that may stand only once on a parameter. -/
def singleRoles (p : ParameterModel) : List Role :=
  p.roles.filter fun r => !r.kind.isRepeatable

def hasTooManyRoles (p : ParameterModel) : Bool :=
  let single := (singleRoles p).length
  1 < single || (single == 1 && 1 < p.roleKinds.length)

def parameterFindings (c : Context) (f : FunctionModel) (p : ParameterModel) : List Finding :=
  whenever (p.roles.isEmpty && p.builder.isNone) (c.parameterError f p .parameterWithoutRole)
    ++ whenever (hasTooManyRoles p) (c.parameterError f p .parameterWithManyRoles)
    ++ whenever p.isVararg (c.parameterWarning f p .varargExperimental)
    ++ whenever p.type.isAny (c.parameterError f p .anyType)

def functionFindings (c : Context) (f : FunctionModel) : List Finding :=
  let builders := f.builderParameters.length
  whenever f.returnType.isAny (c.error f .anyType)
    ++ whenever (f.httpMethod.method == .absent && builders == 0) (c.error f .noMethod)
    ++ f.parameters.flatMap (parameterFindings c f)
    ++ whenever (1 < builders) (c.error f .severalBuilders)

/-- Abstract functions have to be generated. -/
def ignoredFindings (c : Context) (f : FunctionModel) : List Finding :=
  whenever (f.isAbstract && !f.generate) (c.error f .abstractFunctionIgnored)

def classLevel (c : Context) : List Finding :=
  settingsFindings c ++ c.model.functions.flatMap (ignoredFindings c)
    ++ c.functions.flatMap (functionFindings c)

end ClientGen.Validation
