/-
  ClientGen/Request/Population.lean
  =================================
  **Everything that a function puts into its request.**

  The sections have a fixed order: builders, method, URL, headers, cookies, body, tags.
  Once the path is bound nothing can fail any more.
-/
import ClientGen.Request.Body

namespace ClientGen.Request

open ClientGen.Code ClientGen.Text

/-! ### Builders -/

def buildersOf (f : FunctionModel) (kind : BuilderKind) : List ParameterModel :=
  f.parameters.filter fun p => p.builder == some kind

/-- Take over a request that a parameter holds; only a builder brings its own function
    for that. -/
def writeTakenRequest (p : ParameterModel) : NameM Statement := do
  if !p.type.is TypeName.httpRequestBuilder then
    let _ ← writeMember Library.requestTakeFrom
  return eachValue p.name (wholeShape p) fun v =>
    .expression ("this.takeFrom(" ++ v.code ++ ")")

def runOnRequest (p : ParameterModel) : Statement :=
  .expression (p.name ++ (if p.type.nullable then "?.invoke(this)" else "(this)"))

/-- Requests that are taken over, and then functions that are run on the request. -/
def writeBuilders (f : FunctionModel) : NameM (List Statement) := do
  let taken ← (buildersOf f .takeFrom).mapM writeTakenRequest
  return taken ++ (buildersOf f .lambda).map runOnRequest

/-! ### Method -/

def methodValue (methods : String) (m : HttpMethod) : String :=
  match m.constant? with
  | some constant => methods ++ "." ++ constant
  | none => methods ++ ".parse(" ++ quoted m.verb ++ ")"

def writeMethod (m : HttpMethod) : NameM (List Statement) := do
  if m = .absent then return []
  let methods ← writeName Library.httpMethod
  return [.expression ("this.method = " ++ methodValue methods m)]

/-! ### Sections -/

/-- The statements of a request by section. -/
structure Population where
  builders : List Statement
  method : List Statement
  url : List Statement
  headers : List Statement
  cookies : List Statement
  body : List Statement
  tags : List Statement
deriving Repr, Inhabited

def Population.statements (r : Population) : List Statement :=
  r.builders ++ r.method ++ r.url ++ r.headers ++ r.cookies ++ r.body ++ r.tags

def writePopulation (f : FunctionModel) (path : List PathPiece) : NameM Population := do
  let builders ← writeBuilders f
  let method ← writeMethod f.httpMethod.method
  let url ← writeUrl f path
  let headers ← writeHeaders f
  let cookies ← writeCookies f
  let body ← writeBody f
  let tags ← writeTags f
  return ⟨builders, method, url, headers, cookies, body, tags⟩

end ClientGen.Request
