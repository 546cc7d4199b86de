/-
  ClientGen/Validation/Headers.lean
  =================================
  **Headers of functions and parameters.**

  Every header has a name and a value, and the content type is given at most once:
  form encoded and multipart functions already give it.
-/
import ClientGen.Validation.Finding

namespace ClientGen.Validation

open ClientGen.Text

/-- The header is the content type, whatever the case of its ASCII letters. -/
def isContentType (name : String) : Bool :=
  equalsIgnoringCase (trim name) "Content-Type"

/-- The name and value of a header entry, compared without blanks. -/
def headerParts (raw : String) : String × String :=
  let compact := removeBlanks raw
  (splitOnce ':' compact).getD (compact, "")

def givesContentType (raw : String) : Bool :=
  isContentType (headerParts raw).1

def roleGivesContentType : Role → Bool
  | .header name => isContentType (removeBlanks name)
  | _ => false

def contentTypeCount (f : FunctionModel) : Nat :=
  (f.rawHeaders.filter givesContentType).length
    + ((f.parameters.flatMap fun p => p.roles).filter roleGivesContentType).length

def entryFindings (c : Context) (f : FunctionModel) (raw : String) : List Finding :=
  let (name, value) := headerParts raw
  whenever (isBlank name || isBlank value) (c.error f (.badHeaderEntry raw))

def isBlankHeader : Role → Bool
  | .header name => isBlank name
  | _ => false

def headerParameterFindings (c : Context) (f : FunctionModel) (p : ParameterModel) :
    List Finding :=
  ((p.roles.filter isBlankHeader).map fun _ => c.parameterError f p .badHeader)
    ++ checkMapRole c f .headerMap true .headerMapType p

def contentTypeFindings (c : Context) (f : FunctionModel) : List Finding :=
  let count := contentTypeCount f
  (if (f.isFormUrl || f.isMultipart) && 0 < count then [c.error f .contentTypeImplied]
    else whenever (1 < count) (c.error f (.severalContentTypes count)))
    ++ whenever (f.hasBodyParameter && count == 0 && !f.hasRole .headerMap)
        (c.warning f .contentTypeUnknown)

def headers (c : Context) : List Finding :=
  c.functions.flatMap fun f =>
    f.rawHeaders.flatMap (entryFindings c f)
      ++ f.parameters.flatMap (headerParameterFindings c f)
      ++ contentTypeFindings c f

end ClientGen.Validation
