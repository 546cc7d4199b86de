/-
  ClientGen/Vocabulary/Word.lean
  ==============================
  **The closed annotation vocabulary.**

  Every annotation that the generator reads is one word: a package and a simple
  name.  No two words share a simple name, so a use is at most one word.
-/
import ClientGen.Declaration.Annotation

namespace ClientGen

open ClientGen.Text

/-! ### Packages -/

/-- The package of the annotations that shape a request. -/
def httpPackage : String := "io.github.kingg22.ktorgen.http"

/-- The package of the annotations that steer the generator. -/
def corePackage : String := "io.github.kingg22.ktorgen.core"

def vocabularyRoot : String := "io.github.kingg22.ktorgen."

/-! ### Words -/

inductive Word where
  | get
  | post
  | put
  | delete
  | patch
  | head
  | options
  | http
  | header
  | headers
  | headerParam
  | headerMap
  | cookie
  | fragment
  | formUrlEncoded
  | multipart
  | body
  | url
  | path
  | query
  | queryName
  | queryMap
  | field
  | fieldMap
  | part
  | partMap
  | tag
  | pairString
  | generated
  | ktorGen
  | ktorGenFunction
  | ktorGenFunctionKmp
  | ktorGenIgnore
  | topLevelFactory
  | companionFactory
  | httpClientFactory
deriving DecidableEq, Repr

namespace Word

def simple : Word → String
  | .get => "GET"
  | .post => "POST"
  | .put => "PUT"
  | .delete => "DELETE"
  | .patch => "PATCH"
  | .head => "HEAD"
  | .options => "OPTIONS"
  | .http => "HTTP"
  | .header => "Header"
  | .headers => "Headers"
  | .headerParam => "HeaderParam"
  | .headerMap => "HeaderMap"
  | .cookie => "Cookie"
  | .fragment => "Fragment"
  | .formUrlEncoded => "FormUrlEncoded"
  | .multipart => "Multipart"
  | .body => "Body"
  | .url => "Url"
  | .path => "Path"
  | .query => "Query"
  | .queryName => "QueryName"
  | .queryMap => "QueryMap"
  | .field => "Field"
  | .fieldMap => "FieldMap"
  | .part => "Part"
  | .partMap => "PartMap"
  | .tag => "Tag"
  | .pairString => "PairString"
  | .generated => "Generated"
  | .ktorGen => "KtorGen"
  | .ktorGenFunction => "KtorGenFunction"
  | .ktorGenFunctionKmp => "KtorGenFunctionKmp"
  | .ktorGenIgnore => "KtorGenIgnore"
  | .topLevelFactory => "KtorGenTopLevelFactory"
  | .companionFactory => "KtorGenCompanionExtFactory"
  | .httpClientFactory => "KtorGenHttpClientExtFactory"

def package : Word → String
  | .generated | .ktorGen | .ktorGenFunction | .ktorGenFunctionKmp | .ktorGenIgnore
  | .topLevelFactory | .companionFactory | .httpClientFactory => corePackage
  | _ => httpPackage

def all : List Word :=
  [.get, .post, .put, .delete, .patch, .head, .options, .http, .header, .headers, .headerParam,
   .headerMap, .cookie, .fragment, .formUrlEncoded, .multipart, .body, .url, .path, .query,
   .queryName, .queryMap, .field, .fieldMap, .part, .partMap, .tag, .pairString, .generated,
   .ktorGen, .ktorGenFunction, .ktorGenFunctionKmp, .ktorGenIgnore, .topLevelFactory,
   .companionFactory, .httpClientFactory]

theorem mem_all (w : Word) : w ∈ all := by
  cases w <;> simp [all]

end Word

def AnnotationUse.word? (a : AnnotationUse) : Option Word :=
  Word.all.find? fun w => a.is w.package w.simple

/-- The name lies in the packages of the vocabulary, or is the simple name of a word
    that was left unqualified. -/
def isVocabulary (name : String) : Bool :=
  startsWith name vocabularyRoot
    || (!name.toList.contains '.' && Word.all.any fun w => w.simple == name)

end ClientGen
