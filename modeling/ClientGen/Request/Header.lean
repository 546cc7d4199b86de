/-
  ClientGen/Request/Header.lean
  =============================
  **The headers and cookies of a request.**
-/
import ClientGen.Request.Url
import ClientGen.Text.Blank

namespace ClientGen.Request

open ClientGen.Code ClientGen.Text

/-! ### Headers -/

def appendTo (name value : String) : Statement :=
  .expression ("this.append(" ++ name ++ ", " ++ value ++ ")")

def headerStatement? (p : ParameterModel) : Role → Option Statement
  | .header name =>
    some (eachValue p.name p.shape fun v => appendTo (quoted (trim name)) v.text)
  | .headerMap => some (eachEntry p fun key v => appendTo key v.text)
  | _ => none

/-- What a header entry adds: the texts before and behind its first colon. -/
def entryHeader? (entry : String) : Option Statement :=
  (splitOnce ':' entry).map fun e => appendTo (quoted (trim e.1)) (quoted (trim e.2))

def headerBody (f : FunctionModel) : List Statement :=
  roleStatements f headerStatement? ++ f.rawHeaders.filterMap entryHeader?

def writeContentType (f : FunctionModel) : NameM (List Statement) := do
  if f.isFormUrl && !f.isMultipart then
    let set ← writeMember Library.setContentType
    let types ← writeName Library.contentType
    return [.expression ("this." ++ set ++ "(" ++ types ++ ".Application.FormUrlEncoded)")]
  else return []

def writeHeaderBlock (body : List Statement) : NameM (List Statement) := do
  if body.isEmpty then return []
  let headers ← writeMember Library.headers
  return [.block (.plain ("this." ++ headers) body)]

def writeHeaders (f : FunctionModel) : NameM (List Statement) := do
  let contentType ← writeContentType f
  let block ← writeHeaderBlock (headerBody f)
  return contentType ++ block

/-! ### Cookies -/

/-- A text argument, left out when it is empty. -/
def textArgument (s : String) : String :=
  if s.isEmpty then "null" else quoted s

def extensionsArgument (extensions : List (String × String)) : String :=
  if extensions.isEmpty then "emptyMap()"
  else "mapOf(" ++ join ", " (extensions.map fun e => quoted e.1 ++ " to " ++ quoted e.2) ++ ")"

def writeExpires : Option Int → NameM String
  | none => return "null"
  | some time => do
    let date ← writeName Library.date
    return date ++ "(" ++ toString time ++ "L)"

def cookieArguments (c : Cookie) (expires : String) : String :=
  "maxAge = " ++ toString c.maxAge ++ ", expires = " ++ expires
    ++ ", domain = " ++ textArgument c.domain ++ ", path = " ++ textArgument c.path
    ++ ", secure = " ++ toString c.secure ++ ", httpOnly = " ++ toString c.httpOnly
    ++ ", extensions = " ++ extensionsArgument c.extensions

/-- The statement that adds a cookie, as a function of its value. -/
def writeCookie (c : Cookie) : NameM (String → Statement) := do
  let cookie ← writeMember Library.cookie
  let expires ← writeExpires c.expires
  return fun value =>
    .expression ("this." ++ cookie ++ "(name = " ++ quoted c.name ++ ", value = " ++ value ++ ", "
      ++ cookieArguments c expires ++ ")")

def CookieValue.ownText : CookieValue → String
  | .literal value => value
  | .fromParameter => ""

def writeOwnCookie (c : Cookie) : NameM Statement := do
  let statement ← writeCookie c
  return statement (quoted (CookieValue.ownText c.value))

/-- A cookie of a parameter: a fixed value, or every value of the parameter. -/
def writeParameterCookie (p : ParameterModel) (c : Cookie) : NameM Statement := do
  let statement ← writeCookie c
  match c.value with
  | .literal value => return statement (quoted value)
  | .fromParameter => return eachValue p.name p.shape fun v => statement v.text

def cookieOf? : Role → Option Cookie
  | .cookie c => some c
  | _ => none

def parameterCookies (f : FunctionModel) : List (ParameterModel × Cookie) :=
  f.parameters.flatMap fun p => (p.roles.filterMap cookieOf?).map fun c => (p, c)

def writeCookies (f : FunctionModel) : NameM (List Statement) := do
  let own ← f.cookies.mapM writeOwnCookie
  let others ← (parameterCookies f).mapM fun pc => writeParameterCookie pc.1 pc.2
  return own ++ others

end ClientGen.Request
