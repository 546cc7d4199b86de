/-
  ClientGen/Model/TypeNames.lean
  ==============================
  **Types with a meaning of their own.**
-/
import ClientGen.Declaration.TypeRef

namespace ClientGen.TypeName

/-! ### Names -/

def unit : String := "kotlin.Unit"

def any : String := "kotlin.Any"

def string : String := "kotlin.String"

def result : String := "kotlin.Result"

def pair : String := "kotlin.Pair"

def map : String := "kotlin.collections.Map"

def mutableMap : String := "kotlin.collections.MutableMap"

def flow : String := "kotlinx.coroutines.flow.Flow"

def httpClient : String := "io.ktor.client.HttpClient"

def httpRequestBuilder : String := "io.ktor.client.request.HttpRequestBuilder"

def httpRequest : String := "io.ktor.client.request.HttpRequest"

/-- A finished description of a request. -/
def httpRequestData : String := "io.ktor.client.request.HttpRequestData"

/-- A request that was not executed. -/
def httpStatement : String := "io.ktor.client.statement.HttpStatement"

def partData : String := "io.ktor.http.content.PartData"

/-- Collections whose elements are values of their own. -/
def collections : List String :=
  ["kotlin.Array", "kotlin.collections.List", "kotlin.collections.MutableList",
   "kotlin.collections.Collection", "kotlin.collections.MutableCollection",
   "kotlin.collections.Iterable", "kotlin.collections.Set", "kotlin.collections.MutableSet"]

end ClientGen.TypeName

namespace ClientGen.TypeRef

/-! ### Tests -/

def isMap (t : TypeRef) : Bool :=
  t.is TypeName.map || t.is TypeName.mutableMap

def isPair (t : TypeRef) : Bool :=
  t.is TypeName.pair

def isAny (t : TypeRef) : Bool :=
  t.is TypeName.any

def isString (t : TypeRef) : Bool :=
  t.is TypeName.string

end ClientGen.TypeRef
