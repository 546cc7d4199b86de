/-
  ClientGen/Code/Syntax.lean
  ==========================
  **Source code that the generator writes.**

  Only what generated files contain: statements and brace blocks, functions, a class
  with its constructor, and files.  Names of types and members are stored as they are
  written in the file.
-/

namespace ClientGen.Code

/-! ### Statements -/

mutual
inductive Statement where
  /-- A local value. -/
  | value (name init : String)
  | expression (code : String)
  | returning (value : Option String)
  | block (b : Block)
  /-- Code that is already written, indented line by line. -/
  | raw (code : String)

/-- A brace block with what stands around it. -/
structure Block where
  /-- What stands in front of the opening brace, possibly nothing. -/
  opening : String
  /-- Names behind the opening brace, in front of an arrow. -/
  parameters : Option String
  body : List Statement
  /-- Further parts of the block, such as one that catches a failure. -/
  branches : List Branch
  /-- What follows the last closing brace. -/
  closing : String

/-- A further part of a block. -/
structure Branch where
  label : String
  body : List Statement
end

deriving instance Repr, Inhabited for Statement, Block, Branch

namespace Block

def plain (opening : String) (body : List Statement) : Block :=
  ⟨opening, none, body, [], ""⟩

/-- A block with named parameters. -/
def lambda (opening parameters : String) (body : List Statement) : Block :=
  ⟨opening, some parameters, body, [], ""⟩

def branch (b : Block) (label : String) (body : List Statement) : Block :=
  { b with branches := b.branches ++ [⟨label, body⟩] }

/-- The block with a text behind its last brace. -/
def close (b : Block) (text : String) : Block :=
  { b with closing := text }

end Block

/-! ### Functions -/

structure Param where
  annotations : List String
  /-- The words that make a constructor parameter a property. -/
  property : Option String
  isVararg : Bool
  name : String
  type : String
deriving DecidableEq, Repr, Inhabited

namespace Param

def plain (name type : String) : Param :=
  ⟨[], none, false, name, type⟩

end Param

/-- A function with a block body. -/
structure Function where
  doc : Option String
  annotations : List String
  /-- The visibility first. -/
  modifiers : List String
  /-- The type that the function extends. -/
  receiver : Option String
  name : String
  params : List Param
  returnType : Option String
  body : List Statement
deriving Repr, Inhabited

/-! ### Classes and files -/

structure Class where
  doc : Option String
  annotations : List String
  modifiers : List String
  name : String
  constructorModifiers : List String
  constructorParams : List Param
  /-- Supertypes with what they are delegated to. -/
  supertypes : List String
  functions : List Function
deriving Repr, Inhabited

structure File where
  /-- Annotations of the file, without the mark in front. -/
  annotations : List String
  comment : Option String
  package : String
  /-- Qualified names in ascending order. -/
  imports : List String
  classes : List Class
  functions : List Function
deriving Repr, Inhabited

end ClientGen.Code
