/-
  ClientGen/Code/Printer.lean
  ===========================
  **Writing source code.**

  Bodies are four blanks deeper than what holds them, sections of a file are set apart
  by an empty line, and user text stays inside comments.
-/
import ClientGen.Code.Syntax
import ClientGen.Text.Blank
import ClientGen.Text.Split

namespace ClientGen.Code

open ClientGen.Text

/-! ### Lines -/

/-- The blanks in front of a line at a level. -/
def margin (level : Nat) : String :=
  times level "    "

def line (level : Nat) (text : String) : String :=
  margin level ++ text ++ "\n"

def trimEnd (s : String) : String :=
  String.ofList (s.toList.reverse.dropWhile isBlankChar).reverse

/-- A line of a documentation comment; a closing mark in it is written harmlessly. -/
def docLine (level : Nat) (text : String) : String :=
  if isBlank text then line level " *"
  else line level (" * " ++ replace text "*/" "*&#47;")

def docText (level : Nat) : Option String → String
  | none => ""
  | some doc =>
    line level "/**" ++ String.join ((lines (trimEnd doc)).map (docLine level))
      ++ line level " */"

def annotationLines (level : Nat) (annotations : List String) : String :=
  String.join (annotations.map (line level))

def words (ws : List String) : String :=
  String.join (ws.map (· ++ " "))

/-! ### Parameters -/

def Param.text (p : Param) : String :=
  words p.annotations ++ words p.property.toList ++ (if p.isVararg then "vararg " else "")
    ++ p.name ++ ": " ++ p.type

/-- How many bytes a list of parameters on one line may have. -/
def maxInlineParams : Nat := 80

/-- Parameters on one line, or each on its own when they are too long. -/
def paramsText (level : Nat) (params : List Param) : String :=
  let inline := join ", " (params.map Param.text)
  if inline.utf8ByteSize ≤ maxInlineParams then "(" ++ inline ++ ")"
  else "(\n" ++ String.join (params.map fun p => line (level + 1) (p.text ++ ",")) ++ margin level
    ++ ")"

/-! ### Statements -/

/-- A line of written code; an empty one has no margin. -/
def rawLine (level : Nat) (text : String) : String :=
  if text.isEmpty then "\n" else line level text

def openingText (opening : String) (parameters : Option String) : String :=
  (if opening.isEmpty then "\x7b" else opening ++ " \x7b")
    ++ (match parameters with | some ps => " " ++ ps ++ " ->" | none => "")

mutual
def Statement.text (level : Nat) : Statement → String
  | .value name init => line level ("val " ++ name ++ " = " ++ init)
  | .expression code => line level code
  | .returning (some value) => line level ("return " ++ value)
  | .returning none => line level "return"
  | .block b => b.text level
  | .raw code => String.join ((lines code).map (rawLine level))

def Block.text (level : Nat) : Block → String
  | ⟨opening, parameters, body, branches, closing⟩ =>
    line level (openingText opening parameters) ++ Statement.texts (level + 1) body
      ++ Branch.texts level branches ++ line level ("\x7d" ++ closing)

def Branch.texts (level : Nat) : List Branch → String
  | [] => ""
  | b :: bs => b.text level ++ Branch.texts level bs

def Branch.text (level : Nat) : Branch → String
  | ⟨label, body⟩ =>
    line level ("\x7d " ++ label ++ " \x7b") ++ Statement.texts (level + 1) body

def Statement.texts (level : Nat) : List Statement → String
  | [] => ""
  | s :: ss => s.text level ++ Statement.texts level ss
end

/-! ### Functions -/

def Function.headText (level : Nat) (f : Function) : String :=
  words f.modifiers ++ "fun " ++ (match f.receiver with | some r => r ++ "." | none => "")
    ++ f.name ++ paramsText level f.params
    ++ (match f.returnType with | some t => ": " ++ t | none => "") ++ " \x7b"

def Function.text (level : Nat) (f : Function) : String :=
  docText level f.doc ++ annotationLines level f.annotations ++ line level (f.headText level)
    ++ Statement.texts (level + 1) f.body ++ line level "\x7d"

/-! ### Classes and files -/

/-- The constructor of a class, nothing when it says nothing. -/
def Class.constructorText (c : Class) : String :=
  if c.constructorModifiers.isEmpty && c.constructorParams.isEmpty then ""
  else " " ++ words c.constructorModifiers ++ "constructor" ++ paramsText 0 c.constructorParams

def Class.headText (c : Class) : String :=
  words c.modifiers ++ "class " ++ c.name ++ c.constructorText
    ++ (if c.supertypes.isEmpty then "" else " : " ++ join ", " c.supertypes)

def Class.text (c : Class) : String :=
  docText 0 c.doc ++ annotationLines 0 c.annotations
    ++ (if c.functions.isEmpty then line 0 c.headText
        else line 0 (c.headText ++ " \x7b") ++ join "\n" (c.functions.map (Function.text 1))
          ++ line 0 "\x7d")

def commentLine (text : String) : String :=
  if text.isEmpty then "//\n" else "// " ++ text ++ "\n"

/-- A section, left out when the list is empty. -/
def listSection (front : String) (texts : List String) : List String :=
  if texts.isEmpty then [] else [String.join (texts.map fun t => front ++ t ++ "\n")]

def commentSection : Option String → List String
  | none => []
  | some comment => [String.join ((lines (trimEnd comment)).map commentLine)]

def File.sections (f : File) : List String :=
  listSection "@file:" f.annotations ++ commentSection f.comment
    ++ (if f.package.isEmpty then [] else ["package " ++ f.package ++ "\n"])
    ++ listSection "import " f.imports
    ++ f.classes.map Class.text ++ f.functions.map (Function.text 0)

def File.text (f : File) : String :=
  join "\n" f.sections

end ClientGen.Code
