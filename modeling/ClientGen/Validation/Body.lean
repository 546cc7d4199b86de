/-
  ClientGen/Validation/Body.lean
  ==============================
  **Bodies of requests.**

  A request has at most one of three body styles, on a method that carries a body.
  The two encoded styles share their rules.
-/
import ClientGen.Validation.Finding

namespace ClientGen.Validation

/-! ### Body styles -/

def bodyStyles (f : FunctionModel) : Nat :=
  ([f.hasBodyParameter, f.isFormUrl, f.isMultipart].filter id).length

def bodyFindings (c : Context) (f : FunctionModel) : List Finding :=
  let used := bodyStyles f
  let bodies := f.parametersWith .body
  whenever (0 < used && !f.httpMethod.allowsBody)
      (c.warning f (.bodyNotAllowed f.httpMethod.method.display))
    ++ whenever (1 < used) (c.error f .conflictingBodies)
    ++ whenever (1 < bodies.length || bodies.any fun p => p.isVararg)
        (c.error f .badBodyParameter)

def bodies (c : Context) : List Finding :=
  c.functions.flatMap (bodyFindings c)

/-! ### Encoded bodies -/

/-- Form encoded and multipart bodies belong on these methods. -/
def acceptsEncodedBody (m : MethodUse) : Bool :=
  m.hasBody || [HttpMethod.post, .put, .patch].contains m.method

/-- The rules of one encoded style. -/
structure EncodedStyle where
  /-- The mark of the style. -/
  mark : FunctionMark
  /-- The roles that contribute to the body. -/
  single : RoleKind
  map : RoleKind
  implied : Problem
  empty : Problem
  method : Problem
  mapType : Problem
deriving DecidableEq, Repr

def formStyle : EncodedStyle :=
  ⟨.formUrlEncoded, .field, .fieldMap, .formImplied, .formEmpty, .formMethod, .fieldMapType⟩

def multipartStyle : EncodedStyle :=
  ⟨.multipart, .part, .partMap, .multipartImplied, .multipartEmpty, .multipartMethod,
    .partMapType⟩

def encodedFindings (s : EncodedStyle) (c : Context) (f : FunctionModel) : List Finding :=
  let hasParts := f.hasRole s.single || f.hasRole s.map
  let marked := f.marks.contains s.mark
  whenever (!marked && hasParts) (c.warning f s.implied)
    ++ whenever (marked && !hasParts) (c.error f s.empty)
    ++ whenever ((marked || hasParts) && !acceptsEncodedBody f.httpMethod) (c.warning f s.method)
    ++ f.parameters.flatMap (checkMapRole c f s.map false s.mapType)

def formBodies (c : Context) : List Finding :=
  c.functions.flatMap (encodedFindings formStyle c)

def multipartBodies (c : Context) : List Finding :=
  c.functions.flatMap (encodedFindings multipartStyle c)

end ClientGen.Validation
