/-
  ClientGen/Diagnostics/Problem.lean
  ==================================
  **What can be wrong with a declaration.**

  A problem is a cause with the values that it names; `Problem.message` is the only
  place with wording.
-/
import ClientGen.Text.Split

namespace ClientGen

/-- Something wrong with a declaration. -/
inductive Problem where
  -- Found while a model is extracted.
  | typeNotAllowed
  | noFile
  | expectOrExternal (declaration : String)
  | severalMethods
  | noReturnType
  | cookieWithoutValue (name : String)
  | unresolvedSymbols (names : List String)
  -- Found in the settings of an interface.
  | classVisibility (current : String)
  | constructorVisibility (current : String)
  | factoryVisibility (current : String)
  | unknownVisibility (current : String)
  | privateClassWithoutFactory
  | privateInterface (current : String)
  | missingCompanion
  | twoKtorGen
  -- Found in its functions and parameters.
  | abstractFunctionIgnored
  | anyType
  | noMethod
  | parameterWithoutRole
  | parameterWithManyRoles
  | varargExperimental
  | severalBuilders
  -- Found in types.
  | typeVariable (type : String)
  | notSuspending (type : String)
  | headReturnsBody
  -- Found in paths and fragments.
  | urlWithPath
  | urlSyntax (sample : String)
  | doubleSlash (basePath methodPath : String)
  | severalUrls
  | nullableUrl
  | urlWithPathParameter
  | blankFragment
  | severalFragments
  | pathWithoutPlaceholders (path : String)
  | missingPath (path : String)
  | missingPathFor (path placeholder : String)
  | duplicatePlaceholder (path : String)
  | placeholderBoundTwice (path placeholder : String)
  | nullablePath
  -- Found in headers.
  | badHeader
  | badHeaderEntry (entry : String)
  | contentTypeImplied
  | severalContentTypes (count : Nat)
  | contentTypeUnknown
  -- Found in map-like parameters.
  | headerMapType
  | queryMapType
  | fieldMapType
  | partMapType
  -- Found in bodies.
  | bodyNotAllowed (method : String)
  | conflictingBodies
  | badBodyParameter
  | formImplied
  | formEmpty
  | formMethod
  | multipartImplied
  | multipartEmpty
  | multipartMethod
  -- Found in cookies.
  | varargWithManyCookies
  -- Found in multiplatform factories.
  | factoryNotExpect
  | factoryNeedsExperimental (name : String)
  -- Found while code is generated.
  | duplicateFactory (factory key : String)
  | factoryBecomesActual (name factory : String)
  | parameterCount (className name : String) (found expected : Nat)
  | parameterType (position : Nat) (name expected found : String)
deriving DecidableEq, Repr, Inhabited

namespace Problem

def message : Problem → String
  | .typeNotAllowed =>
    "Only interfaces and their companion objects can be annotated with @KtorGen."
  | .noFile =>
    "Interface is not declared in a source file, its implementation cannot be generated."
  | .expectOrExternal declaration =>
    "expect or external declarations are not supported. Declare the interface in common code "
      ++ "and use @KtorGenFunctionKmp for platform factories. Found on " ++ declaration
  | .severalMethods => "Only one HTTP method is allowed."
  | .noReturnType => "Return type is not defined."
  | .cookieWithoutValue name => "@Cookie on a function needs a value. Cookie: " ++ name
  | .unresolvedSymbols names => "Symbols could not be resolved: " ++ Text.join ", " names
  | .classVisibility current =>
    "Generated class visibility must be public, internal or private. Current '" ++ current ++ "'"
  | .constructorVisibility current =>
    "Constructor visibility must not be private or protected. Current '" ++ current ++ "'"
  | .factoryVisibility current =>
    "Factory function visibility must not be private or protected. Current '" ++ current ++ "'"
  | .unknownVisibility current =>
    "Unknown visibility modifier. Current '" ++ current ++ "'"
  | .privateClassWithoutFactory =>
    "A private generated class needs at least one factory function, otherwise it cannot be used."
  | .privateInterface current =>
    "A private interface cannot be implemented by a generated class. Current '" ++ current ++ "'"
  | .missingCompanion =>
    "Companion factory requested but the interface declares no companion object."
  | .twoKtorGen =>
    "@KtorGen is present on the interface and on its companion object, keep only one."
  | .abstractFunctionIgnored =>
    "Abstract function is excluded from generation, the generated class would not compile. "
      ++ "Add a default implementation or generate it."
  | .anyType =>
    "Any is not allowed as a request or response type, use a concrete type."
  | .noMethod =>
    "No HTTP method annotation and no HttpRequestBuilder parameter to define the request."
  | .parameterWithoutRole => "Parameter without a KtorGen annotation."
  | .parameterWithManyRoles =>
    "Parameter with more than one KtorGen annotation, only @Cookie and @HeaderParam can be "
      ++ "repeated."
  | .varargExperimental =>
    "vararg parameters are experimental, check the generated code."
  | .severalBuilders => "Only one HttpRequestBuilder parameter is allowed."
  | .typeVariable type =>
    "Function or parameters types must not include a type variable or wildcard: " ++ type
  | .notSuspending type =>
    "Function must be suspend, or return Flow, HttpRequestBuilder or HttpStatement. "
      ++ "Current return type: " ++ type
  | .headReturnsBody => "HEAD responses have no body, the function must return Unit."
  | .urlWithPath =>
    "@Url parameter cannot be combined with a path in the HTTP method annotation."
  | .urlSyntax sample =>
    "URL path has invalid syntax. Current path ('valid' is a placeholder for runtime values): "
      ++ sample
  | .doubleSlash basePath methodPath =>
    "Double slash in URL path. Base path '" ++ basePath ++ "' and endpoint path '" ++ methodPath
      ++ "' will generate a double slash ('//'). Consider removing the trailing or leading '/'."
  | .severalUrls => "Only one @Url parameter is allowed and it cannot be vararg."
  | .nullableUrl => "@Url parameter type may not be nullable."
  | .urlWithPathParameter => "@Url cannot be combined with @Path parameters."
  | .blankFragment => "@Fragment value on the function is blank."
  | .severalFragments => "Only one fragment is allowed, on the function or on one parameter."
  | .pathWithoutPlaceholders path =>
    "@Path can only be used with a relative URL that has placeholders, current URL without path "
      ++ "placeholders: '" ++ path ++ "'. "
  | .missingPath path => "Missing or unmatched @Path value for URL " ++ path ++ ". "
  | .missingPathFor path placeholder =>
    "Missing or unmatched @Path value for URL " ++ path ++ ", placeholder '\x7b" ++ placeholder
      ++ "\x7d'. "
  | .duplicatePlaceholder path => "Duplicate placeholder in URL " ++ path ++ ". "
  | .placeholderBoundTwice path placeholder =>
    "More than one @Path parameter binds the same placeholder in URL " ++ path
      ++ ", placeholder '\x7b" ++ placeholder ++ "\x7d'. "
  | .nullablePath => "@Path parameter type may not be nullable."
  | .badHeader =>
    "Header needs a non-blank name and value, written as 'Name: Value'."
  | .badHeaderEntry entry =>
    "Header needs a non-blank name and value, written as 'Name: Value'. Found '" ++ entry ++ "'"
  | .contentTypeImplied =>
    "Only one Content-Type header is allowed, @FormUrlEncoded and @Multipart already set it."
  | .severalContentTypes count =>
    "Only one Content-Type header is allowed, @FormUrlEncoded and @Multipart already set it. "
      ++ "Found " ++ toString count ++ " declarations."
  | .contentTypeUnknown =>
    "Content type for body maybe unknown. Add a Content-Type header or configure the client "
      ++ "default."
  | .headerMapType =>
    "@HeaderMap parameter type must be Map<String, String> or Pair<String, String>."
  | .queryMapType =>
    "@QueryMap parameter type must be Map<String, *> or Pair<String, *>."
  | .fieldMapType =>
    "@FieldMap parameter type must be Map<String, *> or Pair<String, *>."
  | .partMapType =>
    "@PartMap parameter type must be Map<String, *> or Pair<String, *>."
  | .bodyNotAllowed method =>
    method ++ " method must not include body. "
      ++ "See https://datatracker.ietf.org/doc/html/rfc7231#section-4.3.1"
  | .conflictingBodies =>
    "Conflicting body type, use only one of @Body, @FormUrlEncoded or @Multipart."
  | .badBodyParameter =>
    "Only one @Body parameter is allowed and it cannot be vararg."
  | .formImplied =>
    "@Field or @FieldMap found without @FormUrlEncoded, the function is treated as form url "
      ++ "encoded."
  | .formEmpty =>
    "@FormUrlEncoded needs at least one @Field or @FieldMap parameter."
  | .formMethod =>
    "FormUrlEncoded can only be specified on HTTP methods with request body (e.g., @POST)."
  | .multipartImplied =>
    "@Part or @PartMap found without @Multipart, the function is treated as multipart."
  | .multipartEmpty =>
    "@Multipart needs at least one @Part or @PartMap parameter."
  | .multipartMethod =>
    "Multipart can only be specified on HTTP methods with request body (e.g., @POST)."
  | .varargWithManyCookies =>
    "vararg parameter with several @Cookie annotations can be invalid, use a Map or ignore if "
      ++ "sure."
  | .factoryNotExpect =>
    "A function annotated with @KtorGenFunctionKmp must be 'expect' in common source set"
  | .factoryNeedsExperimental name =>
    "@KtorGenFunctionKmp is experimental, enable it with 'ktorgen_experimental=true'. Skipping "
      ++ name
  | .duplicateFactory factory key => "Duplicate " ++ factory ++ " detected: " ++ key
  | .factoryBecomesActual name factory =>
    "Expect function '" ++ name ++ "' has the signature of the generated " ++ factory
      ++ ", it becomes the actual"
  | .parameterCount className name found expected =>
    "Expect function parameters do not match the generated constructor. "
      ++ "Constructor mismatch for " ++ className ++ ". Expect function '" ++ name ++ "' has "
      ++ toString found ++ " parameter(s) but generated constructor expects "
      ++ toString expected ++ " parameter(s)"
  | .parameterType position name expected found =>
    "Expect function parameter type does not match the generated constructor. "
      ++ "Parameter type mismatch at position " ++ toString position ++ " for expect function '"
      ++ name ++ "'. Expected: " ++ expected ++ ", Found: " ++ found

end Problem

end ClientGen
