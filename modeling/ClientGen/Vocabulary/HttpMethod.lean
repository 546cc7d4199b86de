/-
  ClientGen/Vocabulary/HttpMethod.lean
  ====================================
  **Request methods.**

  Seven fixed methods, any other verb in capitals, and the absence of a method when
  a builder parameter describes the whole request.
-/
import ClientGen.Text.Blank
import ClientGen.Text.Name

namespace ClientGen

open ClientGen.Text

inductive HttpMethod where
  | get
  | post
  | put
  | delete
  | patch
  | head
  | options
  | custom (verb : String)
  | absent
deriving DecidableEq, Repr, Inhabited

namespace HttpMethod

/-- The verb in capitals, empty when absent. -/
def verb : HttpMethod → String
  | .get => "GET"
  | .post => "POST"
  | .put => "PUT"
  | .delete => "DELETE"
  | .patch => "PATCH"
  | .head => "HEAD"
  | .options => "OPTIONS"
  | .custom v => v
  | .absent => ""

def fixed : List HttpMethod :=
  [.get, .post, .put, .delete, .patch, .head, .options]

/-- The method with a verb, whatever the case of its ASCII letters and the blanks
    around it. -/
def ofVerb (verb : String) : HttpMethod :=
  let capitals := String.ofList ((trim verb).toList.map Char.toUpper)
  (fixed.find? fun m => m.verb == capitals).getD (.custom capitals)

def display : HttpMethod → String
  | .absent => "<absent>"
  | m => m.verb

def constant? : HttpMethod → Option String
  | .get => some "Get"
  | .post => some "Post"
  | .put => some "Put"
  | .delete => some "Delete"
  | .patch => some "Patch"
  | .head => some "Head"
  | .options => some "Options"
  | .custom _ | .absent => none

/-- Requests of the method conventionally carry a body. -/
def supportsBody : HttpMethod → Bool
  | .get | .head | .options => false
  | .custom v => v != "TRACE"
  | .post | .put | .delete | .patch | .absent => true

end HttpMethod

structure MethodUse where
  method : HttpMethod
  /-- The path as written. -/
  path : String
  /-- A body is allowed whatever the method. -/
  hasBody : Bool
deriving DecidableEq, Repr, Inhabited

namespace MethodUse

def absent : MethodUse := ⟨.absent, "", false⟩

def allowsBody (m : MethodUse) : Bool :=
  m.hasBody || m.method.supportsBody

end MethodUse

end ClientGen
