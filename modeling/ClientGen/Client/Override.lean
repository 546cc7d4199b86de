/-
  ClientGen/Client/Override.lean
  ==============================
  **The functions that a generated class overrides.**

  A plan says which parameters the path binds and what happens to the request.  Making
  it may fail; writing a planned function never does.
-/
import ClientGen.Client.Annotations
import ClientGen.Model.Interface
import ClientGen.Request.Population

namespace ClientGen.Client

open ClientGen.Code ClientGen.Request ClientGen.Text

/-! ### Plans -/

/-- What becomes of a populated request. -/
inductive RequestUse where
  /-- It is executed, and the body of the response is read as a type when one is
      given. -/
  | execute (response : Option TypeRef)
  /-- It is handed out as a builder. -/
  | describe
  /-- It is handed out as a statement. -/
  | prepare
deriving DecidableEq, Repr, Inhabited

/-- The request is handed out and not executed. -/
def RequestUse.isDescription : RequestUse → Bool
  | .execute _ => false
  | .describe | .prepare => true

/-- How the body of a function uses its request. -/
inductive BodyPlan where
  | direct (use : RequestUse)
  /-- Failures are captured. -/
  | captured (use : RequestUse)
  /-- A stream of one value. -/
  | streamed (response : Option TypeRef)
  /-- A stream of one captured failure or value. -/
  | streamedCapture (use : RequestUse)
deriving DecidableEq, Repr, Inhabited

def RequestUse.of? : ReturnKind → Option RequestUse
  | .unit => some (.execute none)
  | .plain t => some (.execute (some t))
  | .builder => some .describe
  | .statement => some .prepare
  | _ => none

def BodyPlan.ofStream? : ReturnKind → Option BodyPlan
  | .unit => some (.streamed none)
  | .plain t => some (.streamed (some t))
  | .result inner => (RequestUse.of? inner).map .streamedCapture
  | _ => none

def BodyPlan.of? : ReturnKind → Option BodyPlan
  | .result inner => (RequestUse.of? inner).map .captured
  | .flow inner => BodyPlan.ofStream? inner
  | kind => (RequestUse.of? kind).map .direct

def unplannedBody (f : FunctionModel) : Fatal :=
  .defect ("no body shape for return type " ++ f.returnType.display ++ " of function '" ++ f.name
    ++ "'")

/-- What is decided before a function is written. -/
structure OverridePlan where
  path : List PathPiece
  body : BodyPlan
deriving DecidableEq, Repr, Inhabited

def planOverride (f : FunctionModel) : Except Fatal OverridePlan :=
  match bindPath f with
  | .error e => .error e
  | .ok path =>
    match BodyPlan.of? f.returnKind with
    | some body => .ok ⟨path, body⟩
    | none => .error (unplannedBody f)

/-! ### Requests -/

/-- What every body needs: the client, and the statements that populate the request. -/
structure RequestParts where
  client : String
  population : List Statement
deriving Repr, Inhabited

def writeResponse (t : TypeRef) : NameM String := do
  let body ← writeMember Library.body
  let type ← writeType t
  return "." ++ body ++ "<" ++ type ++ ">()"

def writeExecuted (r : RequestParts) (front back : String) : NameM Block := do
  let request ← writeMember Library.request
  return (Block.plain (front ++ r.client ++ "." ++ request) r.population).close back

def writeDescribed (r : RequestParts) (front back : String) : NameM Block := do
  let builder ← writeName TypeName.httpRequestBuilder
  return (Block.plain (front ++ builder ++ "().apply") r.population).close back

def writePrepared (r : RequestParts) (front back : String) : NameM Block := do
  let statement ← writeName TypeName.httpStatement
  let builder ← writeName TypeName.httpRequestBuilder
  return (Block.plain (front ++ statement ++ "(" ++ builder ++ "().apply") r.population).close
    (", " ++ r.client ++ ")" ++ back)

/-! ### Bodies -/

def writeReturned (r : RequestParts) : RequestUse → NameM (List Statement)
  | .execute none => return [.block (← writeExecuted r "" "")]
  | .execute (some t) => do
    let response ← writeResponse t
    return [.block (← writeExecuted r "return " response)]
  | .describe => return [.block (← writeDescribed r "return " "")]
  | .prepare => return [.block (← writePrepared r "return " "")]

def passedTo (receiver : String) : String :=
  ".let \x7b " ++ receiver ++ "(it) \x7d"

/-- The request with its outcome passed to a function. -/
def writePassed (r : RequestParts) (receiver : String) : RequestUse → NameM (List Statement)
  | .execute none =>
    return [.block (← writeExecuted r "" ""), .expression (receiver ++ "(Unit)")]
  | .execute (some t) => do
    let response ← writeResponse t
    return [.block (← writeExecuted r "" (response ++ passedTo receiver))]
  | .describe => return [.block (← writeDescribed r "" (passedTo receiver))]
  | .prepare => return [.block (← writePrepared r "" (passedTo receiver))]

def successName : String := "Result.success"

def emitName : String := "emit"

def resultName : String := "_result"

/-- Fail when the coroutine is cancelled, so that cancellation is never captured. -/
def writeCancellationCheck : NameM (List Statement) := do
  let context ← writeMember Library.currentContext
  let ensureActive ← writeMember Library.ensureActive
  return [.expression (context ++ "()." ++ ensureActive ++ "()")]

/-- A block whose failures are captured. -/
def writeCapture (opening : String) (guarded : List Statement) (checksCancellation : Bool) :
    NameM Statement := do
  let check ← if checksCancellation then writeCancellationCheck else pure []
  return .block ((Block.plain opening guarded).branch "catch (e: Exception)"
    (check ++ [.expression "Result.failure(e)"]))

def writeStream (body : List Statement) : NameM (List Statement) := do
  let flow ← writeMember Library.flow
  return [.block (.plain ("return " ++ flow) body)]

def writeBodyPlan (r : RequestParts) (isSuspend : Bool) : BodyPlan → NameM (List Statement)
  | .direct use => writeReturned r use
  | .captured use => do
    let guarded ← writePassed r successName use
    return [← writeCapture "return try" guarded (isSuspend && !use.isDescription)]
  | .streamed response => do
    let body ← writePassed r emitName (.execute response)
    writeStream body
  | .streamedCapture use => do
    let guarded ← writePassed r successName use
    let capture ← writeCapture ("val " ++ resultName ++ " = try") guarded true
    writeStream [capture, .expression (emitName ++ "(" ++ resultName ++ ")")]

/-! ### Functions -/

def defaultFunctionDoc : String := "Generated by KtorGen"

def writeOverrideAnnotations (m : InterfaceModel) (f : FunctionModel) : NameM (List String) := do
  let copied ←
    if m.options.propagateAnnotations && f.settings.propagateAnnotations then
      f.passthrough.mapM writeMarkedUse
    else pure []
  let markers ← f.settings.annotations.mapM writeMarker
  let optIn ← writeOptIn (m.options.optInAnnotations ++ f.settings.optInAnnotations)
  return copied ++ markers ++ optIn

def writeOverrideParam (p : ParameterModel) : NameM Param := do
  let type ← writeType p.type
  let annotations ← p.passthrough.mapM writeMarkedUse
  return ⟨annotations, none, p.isVararg, p.name, type⟩

def writeOverrideBody (m : InterfaceModel) (f : FunctionModel) (plan : OverridePlan) :
    NameM (List Statement) := do
  let population ← writePopulation f plan.path
  writeBodyPlan ⟨m.clientName, population.statements⟩ f.isSuspend plan.body

/-- The text, or `fallback` when there is nothing in it. -/
def textOr (text fallback : String) : String :=
  if isBlank text then fallback else text

def writeOverride (m : InterfaceModel) (f : FunctionModel) (plan : OverridePlan) :
    NameM Function := do
  let annotations ← writeOverrideAnnotations m f
  let params ← f.parameters.mapM writeOverrideParam
  let returnType ← writeType f.returnType
  let body ← writeOverrideBody m f plan
  return {
    doc := some (textOr f.settings.customHeader defaultFunctionDoc)
    annotations := annotations
    modifiers := "override" :: (if f.isSuspend then ["suspend"] else [])
    receiver := none
    name := f.name
    params := params
    returnType := some returnType
    body := body }

end ClientGen.Client
