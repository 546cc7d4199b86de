/-
  ClientGen/Code/Library.lean
  ===========================
  **Names that generated code calls.**

  Classes and functions of the client library and of coroutines, as qualified names.
-/

namespace ClientGen.Library

/-! ### Requests -/

def generated : String := "io.github.kingg22.ktorgen.core.Generated"

def request : String := "io.ktor.client.request.request"

def setBody : String := "io.ktor.client.request.setBody"

def requestTakeFrom : String := "io.ktor.client.request.takeFrom"

def cookie : String := "io.ktor.client.request.cookie"

def headers : String := "io.ktor.client.request.headers"

def body : String := "io.ktor.client.call.body"

/-! ### Addresses and contents -/

def urlTakeFrom : String := "io.ktor.http.takeFrom"

def encodePath : String := "io.ktor.http.encodeURLPath"

/-- Decode a value that is already encoded. -/
def decodeQueryComponent : String := "io.ktor.http.decodeURLQueryComponent"

def setContentType : String := "io.ktor.http.contentType"

def contentType : String := "io.ktor.http.ContentType"

def httpMethod : String := "io.ktor.http.HttpMethod"

def parameters : String := "io.ktor.http.Parameters"

def formDataContent : String := "io.ktor.client.request.forms.FormDataContent"

def multipartContent : String := "io.ktor.client.request.forms.MultiPartFormDataContent"

def formData : String := "io.ktor.client.request.forms.formData"

/-- The key of a tag. -/
def attributeKey : String := "io.ktor.util.AttributeKey"

def date : String := "io.ktor.util.date.GMTDate"

/-! ### Coroutines -/

def flow : String := "kotlinx.coroutines.flow.flow"

def currentContext : String := "kotlinx.coroutines.currentCoroutineContext"

def ensureActive : String := "kotlinx.coroutines.ensureActive"

def optIn : String := "kotlin.OptIn"

end ClientGen.Library
