/-
  ClientGen/Declaration/TypeRef.lean
  ==================================
  **Types as they are written at a typed position.**

  A type has a qualified name and arguments; a function type carries its signature
  besides.  The display of a type is what messages show and what signatures are
  compared by.
-/
import ClientGen.Text.Name

namespace ClientGen

open ClientGen.Text

/-! ### Types -/

mutual
/-- A resolved type: the qualified name, or the variable name of a type parameter. -/
structure TypeRef where
  qualifiedName : String
  /-- Marked with a question mark. -/
  nullable : Bool
  arguments : List TypeArgument
  /-- False while the type is not yet known. -/
  resolved : Bool
  /-- The name is that of a type variable. -/
  typeParameter : Bool
  /-- The signature of a function type. -/
  function : Option FunctionType

inductive TypeArgument where
  | star
  | type (t : TypeRef)

structure FunctionType where
  receiver : Option TypeRef
  parameters : List TypeRef
  returnType : TypeRef
  suspending : Bool
end

deriving instance Repr, Inhabited for TypeRef, TypeArgument, FunctionType

namespace TypeRef

def named (name : String) : TypeRef :=
  ⟨name, false, [], true, false, none⟩

def simpleName (t : TypeRef) : String :=
  Text.simpleName t.qualifiedName

/-- The type has this qualified name, whatever its nullability. -/
def is (t : TypeRef) (name : String) : Bool :=
  t.qualifiedName == name

/-- The type argument at a place; a star is no type. -/
def argument? (t : TypeRef) (i : Nat) : Option TypeRef :=
  match t.arguments[i]? with
  | some (.type u) => some u
  | _ => none

end TypeRef

/-! ### Display -/

def displayFunction (nullable suspending : Bool) (receiver : Option String)
    (parameters : List String) (returnType : String) : String :=
  let body := (if suspending then "suspend " else "")
    ++ (match receiver with | some r => r ++ "." | none => "")
    ++ "(" ++ join ", " parameters ++ ") -> " ++ returnType
  if nullable then "(" ++ body ++ ")?" else body

def displayPlain (name : String) (nullable : Bool) (arguments : List String) : String :=
  name ++ (if arguments.isEmpty then "" else "<" ++ join ", " arguments ++ ">")
    ++ (if nullable then "?" else "")

mutual
/-- The type with qualified names; the signature stands for a function type. -/
def TypeRef.display : TypeRef → String
  | ⟨name, nullable, arguments, _, _, function⟩ =>
    match function with
    | some f => f.displayAs nullable
    | none => displayPlain name nullable (TypeArgument.displays arguments)

def TypeArgument.display : TypeArgument → String
  | .star => "*"
  | .type t => t.display

def TypeArgument.displays : List TypeArgument → List String
  | [] => []
  | a :: as => a.display :: TypeArgument.displays as

def FunctionType.displayAs (nullable : Bool) : FunctionType → String
  | ⟨receiver, parameters, returnType, suspending⟩ =>
    displayFunction nullable suspending (TypeRef.displayOption receiver)
      (TypeRef.displays parameters) returnType.display

def TypeRef.displayOption : Option TypeRef → Option String
  | none => none
  | some t => some t.display

def TypeRef.displays : List TypeRef → List String
  | [] => []
  | t :: ts => t.display :: TypeRef.displays ts
end

/-- The types have one display: resolution is left out of the comparison. -/
def TypeRef.sameType (t u : TypeRef) : Bool :=
  t.display == u.display

/-! ### Unresolved types -/

def addName (names : List String) (name : String) : List String :=
  if names.contains name then names else names ++ [name]

mutual
/-- Add the names of the unresolved types inside a type, in reading order. -/
def TypeRef.unresolved : TypeRef → List String → List String
  | ⟨name, _, arguments, resolved, _, function⟩, names =>
    let names := if resolved then names else addName names name
    let names := TypeArgument.unresolvedAll arguments names
    match function with
    | some f => f.unresolved names
    | none => names

def TypeArgument.unresolvedAll : List TypeArgument → List String → List String
  | [], names => names
  | .star :: as, names => TypeArgument.unresolvedAll as names
  | .type t :: as, names => TypeArgument.unresolvedAll as (t.unresolved names)

def FunctionType.unresolved : FunctionType → List String → List String
  | ⟨receiver, parameters, returnType, _⟩, names =>
    returnType.unresolved
      (TypeRef.unresolvedAll parameters (TypeRef.unresolvedOption receiver names))

def TypeRef.unresolvedOption : Option TypeRef → List String → List String
  | none, names => names
  | some t, names => t.unresolved names

def TypeRef.unresolvedAll : List TypeRef → List String → List String
  | [], names => names
  | t :: ts, names => TypeRef.unresolvedAll ts (t.unresolved names)
end

/-! ### Type variables and stars -/

mutual
/-- A type variable or a star occurs in the type. -/
def TypeRef.hasVariableOrStar : TypeRef → Bool
  | ⟨_, _, arguments, _, typeParameter, function⟩ =>
    typeParameter || TypeArgument.anyVariableOrStar arguments
      || (match function with
          | some f => f.hasVariableOrStar
          | none => false)

def TypeArgument.anyVariableOrStar : List TypeArgument → Bool
  | [] => false
  | .star :: _ => true
  | .type t :: as => t.hasVariableOrStar || TypeArgument.anyVariableOrStar as

def FunctionType.hasVariableOrStar : FunctionType → Bool
  | ⟨receiver, parameters, returnType, _⟩ =>
    (match receiver with
      | some r => r.hasVariableOrStar
      | none => false)
      || TypeRef.anyVariableOrStar parameters || returnType.hasVariableOrStar

def TypeRef.anyVariableOrStar : List TypeRef → Bool
  | [] => false
  | t :: ts => t.hasVariableOrStar || TypeRef.anyVariableOrStar ts
end

end ClientGen
