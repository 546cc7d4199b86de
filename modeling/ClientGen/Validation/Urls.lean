/-
  ClientGen/Validation/Urls.lean
  ==============================
  **URL parameters, the syntax of paths, and fragments.**
-/
import ClientGen.Validation.Finding
import ClientGen.Web.Address

namespace ClientGen.Validation

open ClientGen.Path ClientGen.Text

/-! ### Paths -/

/-- The path with a sample in place of every placeholder. -/
def samplePath (methodPath : String) : String :=
  (Template.parse methodPath).substituteAll "valid"

def withoutFront (s front : String) : String :=
  match dropFront front.toList s.toList with
  | some rest => String.ofList rest
  | none => s

/-- Joining the two paths would put two slashes side by side. -/
def hasDoubleSlash (basePath methodPath : String) : Bool :=
  !isBlank basePath && !isBlank methodPath && basePath != methodPath
    && endsWith basePath "/" && startsWith (withoutFront methodPath basePath) "/"
    && basePath != "/" && methodPath != "/"

def syntaxFindings (c : Context) (f : FunctionModel) : List Finding :=
  let basePath := c.model.options.basePath
  let methodPath := f.httpMethod.path
  let sample := samplePath methodPath
  whenever (!isBlank sample && f.hasRole .url) (c.error f .urlWithPath)
    ++ whenever (!Web.isValidPath sample) (c.warning f (.urlSyntax sample))
    ++ whenever (hasDoubleSlash basePath methodPath)
        (c.warning f (.doubleSlash basePath methodPath))

/-! ### URL parameters -/

def firstUrlFindings (c : Context) (f : FunctionModel) (p : ParameterModel) : List Finding :=
  whenever p.type.nullable (c.parameterError f p .nullableUrl)
    ++ whenever (f.hasRole .path) (c.error f .urlWithPathParameter)

def urlParameterFindings (c : Context) (f : FunctionModel) : List Finding :=
  match f.parametersWith .url with
  | [] => []
  | p :: ps =>
    whenever (!ps.isEmpty || p.isVararg) (c.error f .severalUrls) ++ firstUrlFindings c f p

/-! ### Fragments -/

def fragmentFindings (c : Context) (f : FunctionModel) : List Finding :=
  let parameters := (f.parametersWith .fragment).length
  match f.fragment? with
  | some (value, _) =>
    whenever (isBlank value) (c.error f .blankFragment)
      ++ whenever (0 < parameters) (c.error f .severalFragments)
  | none => whenever (1 < parameters) (c.error f .severalFragments)

def urls (c : Context) : List Finding :=
  c.functions.flatMap fun f =>
    syntaxFindings c f ++ urlParameterFindings c f ++ fragmentFindings c f

end ClientGen.Validation
