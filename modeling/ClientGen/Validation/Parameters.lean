/-
  ClientGen/Validation/Parameters.lean
  ====================================
  **Query maps and repeated cookies.**
-/
import ClientGen.Validation.Finding

namespace ClientGen.Validation

def queries (c : Context) : List Finding :=
  c.functions.flatMap fun f => f.parameters.flatMap (checkMapRole c f .queryMap false .queryMapType)

/-- Findings about vararg parameters with several cookies. -/
def cookies (c : Context) : List Finding :=
  c.functions.flatMap fun f => f.parameters.flatMap fun p =>
    whenever (p.isVararg && 1 < (p.rolesOf .cookie).length)
      (c.parameterWarning f p .varargWithManyCookies)

end ClientGen.Validation
