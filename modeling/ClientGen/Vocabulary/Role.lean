/-
  ClientGen/Vocabulary/Role.lean
  ==============================
  **What annotations say about functions and parameters.**

  A role is what a parameter contributes to the request.  Defaults are already
  substituted: a query parameter without a name of its own carries the name of the
  function parameter.
-/
import ClientGen.Vocabulary.HttpMethod

namespace ClientGen

/-! ### Cookies -/

inductive CookieValue where
  | fromParameter
  | literal (value : String)
deriving DecidableEq, Repr, Inhabited

structure Cookie where
  name : String
  value : CookieValue
  /-- In seconds, zero when unset. -/
  maxAge : Int
  expires : Option Int
  domain : String
  path : String
  secure : Bool
  httpOnly : Bool
  extensions : List (String × String)
deriving DecidableEq, Repr, Inhabited

/-! ### Functions -/

/-- What an annotation adds to every request of a function. -/
inductive FunctionMark where
  | header (name value : String)
  /-- Entries of the form `Name: Value`, as written. -/
  | headers (entries : List String)
  | cookie (cookie : Cookie)
  | fragment (value : String) (encoded : Bool)
  | formUrlEncoded
  | multipart
deriving DecidableEq, Repr, Inhabited

/-! ### Parameters -/

inductive RoleKind where
  | body
  | url
  | path
  | query
  | queryName
  | queryMap
  | field
  | fieldMap
  | header
  | headerMap
  | part
  | partMap
  | tag
  | fragment
  | cookie
deriving DecidableEq, Repr, Inhabited

namespace RoleKind

def all : List RoleKind :=
  [.body, .url, .path, .query, .queryName, .queryMap, .field, .fieldMap, .header, .headerMap,
   .part, .partMap, .tag, .fragment, .cookie]

/-- Only cookies and headers may stand several times on one parameter. -/
def isRepeatable : RoleKind → Bool
  | .cookie | .header => true
  | _ => false

def annotationName : RoleKind → String
  | .body => "@Body"
  | .url => "@Url"
  | .path => "@Path"
  | .query => "@Query"
  | .queryName => "@QueryName"
  | .queryMap => "@QueryMap"
  | .field => "@Field"
  | .fieldMap => "@FieldMap"
  | .header => "@HeaderParam"
  | .headerMap => "@HeaderMap"
  | .part => "@Part"
  | .partMap => "@PartMap"
  | .tag => "@Tag"
  | .fragment => "@Fragment"
  | .cookie => "@Cookie"

def label : RoleKind → String
  | .body => "body"
  | .url => "url"
  | .path => "path"
  | .query => "query"
  | .queryName => "queryName"
  | .queryMap => "queryMap"
  | .field => "field"
  | .fieldMap => "fieldMap"
  | .header => "header"
  | .headerMap => "headerMap"
  | .part => "part"
  | .partMap => "partMap"
  | .tag => "tag"
  | .fragment => "fragment"
  | .cookie => "cookie"

end RoleKind

inductive Role where
  | body
  | url
  | path (name : String) (encoded : Bool)
  | query (name : String) (encoded : Bool)
  | queryName (encoded : Bool)
  | queryMap (encoded : Bool)
  | field (name : String) (encoded : Bool)
  | fieldMap (encoded : Bool)
  | header (name : String)
  | headerMap
  | part (name encoding : String)
  | partMap (encoding : String)
  | tag (name : String)
  | fragment (encoded : Bool)
  | cookie (cookie : Cookie)
deriving DecidableEq, Repr, Inhabited

def Role.kind : Role → RoleKind
  | .body => .body
  | .url => .url
  | .path .. => .path
  | .query .. => .query
  | .queryName .. => .queryName
  | .queryMap .. => .queryMap
  | .field .. => .field
  | .fieldMap .. => .fieldMap
  | .header .. => .header
  | .headerMap => .headerMap
  | .part .. => .part
  | .partMap .. => .partMap
  | .tag .. => .tag
  | .fragment .. => .fragment
  | .cookie .. => .cookie

end ClientGen
