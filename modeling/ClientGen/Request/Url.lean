/-
  ClientGen/Request/Url.lean
  ==========================
  **The URL of a request.**

  The path is bound first: every placeholder stands for the parameter that carries its
  name.  Binding is the only thing that may fail; whatever is bound can be written.
-/
import ClientGen.Code.Library
import ClientGen.Diagnostics.Fatal
import ClientGen.Imports
import ClientGen.Request.Value
import ClientGen.Text.Literal

namespace ClientGen.Request

open ClientGen.Code ClientGen.Path ClientGen.Text

/-! ### Binding the path -/

/-- A piece of a path: text, or the value of a parameter. -/
inductive PathPiece where
  | text (content : String)
  | parameter (name : String) (encoded : Bool)
deriving DecidableEq, Repr, Inhabited

/-- The parameter when it binds the placeholder, and whether it is already encoded. -/
def bindingOf? (placeholder : String) (p : ParameterModel) : Option (String × Bool) :=
  match p.role? .path with
  | some (.path name encoded) => if name = placeholder then some (p.name, encoded) else none
  | _ => none

def binding? (f : FunctionModel) (placeholder : String) : Option (String × Bool) :=
  f.parameters.findSome? (bindingOf? placeholder)

def unboundPlaceholder (f : FunctionModel) (placeholder : String) : Fatal :=
  .defect ("placeholder '\x7b" ++ placeholder ++ "\x7d' of function '" ++ f.name
    ++ "' has no @Path parameter")

def bindPart (f : FunctionModel) : Part → Except Fatal PathPiece
  | .literal text => .ok (.text text)
  | .placeholder name =>
    match binding? f name with
    | some (parameter, encoded) => .ok (.parameter parameter encoded)
    | none => .error (unboundPlaceholder f name)

def bindParts (f : FunctionModel) : List Part → Except Fatal (List PathPiece)
  | [] => .ok []
  | part :: parts =>
    match bindPart f part with
    | .error e => .error e
    | .ok piece => (bindParts f parts).map (piece :: ·)

def bindPath (f : FunctionModel) : Except Fatal (List PathPiece) :=
  bindParts f f.path.parts

/-! ### Writing the path -/

/-- A piece between the quotes of a literal. -/
def writePathPiece : PathPiece → NameM String
  | .text content => return escape content
  | .parameter name true => return "$\x7b" ++ name ++ "\x7d"
  | .parameter name false => do
    let encode ← writeMember Library.encodePath
    return "$\x7b\"$" ++ name ++ "\"." ++ encode ++ "()\x7d"

def writePath (pieces : List PathPiece) : NameM String := do
  let written ← pieces.mapM writePathPiece
  return "\"" ++ String.join written ++ "\""

def writeTakeFrom (url : String) : NameM Statement := do
  let takeFrom ← writeMember Library.urlTakeFrom
  return .expression ("this." ++ takeFrom ++ "(" ++ url ++ ")")

/-- Take over the path unless it is empty. -/
def writeOwnPath (f : FunctionModel) (path : List PathPiece) : NameM (List Statement) := do
  if f.path.isEmpty then return []
  let literal ← writePath path
  let statement ← writeTakeFrom literal
  return [statement]

/-! ### Queries and fragments -/

def queryTarget (encoded : Bool) : String :=
  if encoded then "encodedParameters" else "parameters"

def fragmentTarget (encoded : Bool) : String :=
  if encoded then "encodedFragment" else "fragment"

def queryStatement? (p : ParameterModel) : Role → Option Statement
  | .query name encoded => some <| eachValue p.name p.shape fun v =>
    .expression ("this." ++ queryTarget encoded ++ ".append(" ++ quoted name ++ ", " ++ v.text
      ++ ")")
  | .queryName encoded => some <| eachValue p.name p.shape fun v =>
    .expression ("this." ++ queryTarget encoded ++ ".appendAll(" ++ v.text ++ ", emptyList())")
  | .queryMap encoded => some <| eachEntry p fun key v =>
    .expression ("this." ++ queryTarget encoded ++ ".append(" ++ key ++ ", " ++ v.text ++ ")")
  | _ => none

def setFragment (encoded : Bool) (value : String) : Statement :=
  .expression ("this." ++ fragmentTarget encoded ++ " = " ++ value)

def fragmentStatement? (p : ParameterModel) : Option Statement :=
  match p.role? .fragment with
  | some (.fragment encoded) =>
    some (eachValue p.name p.shape fun v => setFragment encoded v.text)
  | _ => none

def ownFragment (f : FunctionModel) : List Statement :=
  match f.fragment? with
  | some (value, encoded) => [setFragment encoded (quoted value)]
  | none => []

/-! ### The block -/

def writeUrlBody (f : FunctionModel) (path : List PathPiece) : NameM (List Statement) := do
  let urls ← (f.parametersWith .url).mapM fun p => writeTakeFrom p.name
  let own ← writeOwnPath f path
  return urls ++ own ++ roleStatements f queryStatement? ++ ownFragment f
    ++ f.parameters.filterMap fragmentStatement?

def blockUnlessEmpty (opening : String) (body : List Statement) : List Statement :=
  if body.isEmpty then [] else [.block (.plain opening body)]

def writeUrl (f : FunctionModel) (path : List PathPiece) : NameM (List Statement) :=
  return blockUnlessEmpty "this.url" (← writeUrlBody f path)

end ClientGen.Request
