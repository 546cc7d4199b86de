/-
  ClientGen/Model/ReturnKind.lean
  ===============================
  **What a return type asks of the generated body.**
-/
import ClientGen.Declaration.TypeRefEq
import ClientGen.Model.TypeNames

namespace ClientGen

/-- What the generated body has to produce. -/
inductive ReturnKind where
  /-- No response body. -/
  | unit
  /-- The response body as a value of the type. -/
  | plain (t : TypeRef)
  /-- Failures are captured. -/
  | result (inner : ReturnKind)
  /-- A cold stream of one value. -/
  | flow (inner : ReturnKind)
  /-- The populated request builder. -/
  | builder
  /-- A request that is not executed. -/
  | statement
  /-- A result or stream without a concrete type argument. -/
  | unsupported
deriving DecidableEq, Repr, Inhabited

namespace ReturnKind

/-- The kind of a type that is neither a result nor a stream. -/
def leaf (t : TypeRef) : ReturnKind :=
  if t.is TypeName.unit then .unit else .plain t

def ofResult : Option TypeRef → ReturnKind
  | none => .unsupported
  | some inner =>
    if inner.is TypeName.httpRequestBuilder then .result .builder
    else if inner.is TypeName.httpStatement then .result .statement
    else .result (leaf inner)

def ofFlow : Option TypeRef → ReturnKind
  | none => .unsupported
  | some item =>
    if item.is TypeName.result then
      match item.argument? 0 with
      | some inner => .flow (.result (leaf inner))
      | none => .unsupported
    else .flow (leaf item)

def classify (t : TypeRef) : ReturnKind :=
  if t.is TypeName.flow then ofFlow (t.argument? 0)
  else if t.is TypeName.result then ofResult (t.argument? 0)
  else if t.is TypeName.httpRequestBuilder then .builder
  else if t.is TypeName.httpStatement then .statement
  else leaf t

/-- The body never suspends: streams and descriptions of requests. -/
def isNonSuspending : ReturnKind → Bool
  | .flow _ | .builder | .statement => true
  | .result .builder | .result .statement => true
  | _ => false

/-- No response body. -/
def isUnit : ReturnKind → Bool
  | .unit => true
  | _ => false

end ReturnKind

end ClientGen
