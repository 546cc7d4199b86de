/-
  ClientGen/CommandLine/FileTree.lean
  ===================================
  **A world in memory.**

  Files and directories at places, and what was printed.  A path is followed name by name
  through directories that have to be there, also where it turns back, so that every
  operation answers as a disk does.
-/
import ClientGen.CommandLine.World

namespace ClientGen.CommandLine

open ClientGen.Text

/-! ### Failures -/

/-- Why an operation on files fails. -/
inductive FileError where
  | nothingThere
  | alreadyThere
  | notADirectory
  | isADirectory
  | nameTooLong
  | zeroCharacter
deriving DecidableEq, Repr

def FileError.message : FileError → String
  | .nothingThere => "No such file or directory (os error 2)"
  | .alreadyThere => "File exists (os error 17)"
  | .notADirectory => "Not a directory (os error 20)"
  | .isADirectory => "Is a directory (os error 21)"
  | .nameTooLong => "File name too long (os error 36)"
  | .zeroCharacter => "file name contained an unexpected NUL byte"

/-! ### Places -/

/-- The names that lead to a file or directory from the working directory, from the
    directories around it behind leading `..`, or from the root behind an empty name. -/
abbrev Place : Type := List String

/-- A directory that is there before anything is placed: the working directory, one around
    it, or the root. -/
def isGround (place : Place) : Bool :=
  place.all (· == "..") || place == [""]

def placeAround (place : Place) : Place :=
  if place = [""] then place
  else if isGround place then place ++ [".."]
  else place.dropLast

def stepTo (place : Place) (part : String) : Place :=
  if part = "" ∨ part = "." then place
  else if part = ".." then placeAround place
  else place ++ [part]

/-! ### Paths -/

def longestPath : Nat := 4095

def longestName : Nat := 255

/-- Where a path starts and the parts it goes on by. -/
def splitPath (path : String) : Except FileError (Place × List String) :=
  if path.isEmpty then .error .nothingThere
  else if path.toList.contains '\x00' then .error .zeroCharacter
  else if longestPath < path.utf8ByteSize then .error .nameTooLong
  else .ok (if startsWith path "/" then [""] else [], splitOn '/' path)

/-! ### Trees -/

/-- Files with their contents and directories without, each place once. -/
structure FileTree where
  nodes : List (Place × Option String)
deriving DecidableEq, Repr, Inhabited

namespace FileTree

def empty : FileTree := ⟨[]⟩

/-- What is at a place: nothing, a directory or a file. -/
def at? (t : FileTree) (place : Place) : Option (Option String) :=
  if isGround place then some none else t.nodes.lookup place

def put (t : FileTree) (place : Place) (content : Option String) : FileTree :=
  ⟨(t.nodes.filter fun n => n.1 != place) ++ [(place, content)]⟩

/-- The files below a place, by the parts of their paths from there. -/
def filesAt (t : FileTree) (place : Place) : List (List String × String) :=
  t.nodes.filterMap fun n =>
    match n.2 with
    | none => none
    | some content =>
      if place.isPrefixOf n.1 && n.1 != place then some (n.1.drop place.length, content)
      else none

/-! ### Following a path -/

/-- Where parts of a path lead from a place; what they pass through has to be a directory. -/
def walk (t : FileTree) (place : Place) : List String → Except FileError Place
  | [] => .ok place
  | part :: parts =>
    match t.at? place with
    | none => .error .nothingThere
    | some (some _) => .error .notADirectory
    | some none =>
      if longestName < part.utf8ByteSize then .error .nameTooLong
      else t.walk (stepTo place part) parts

def placeOf (t : FileTree) (path : String) : Except FileError Place := do
  let (place, parts) ← splitPath path
  t.walk place parts

def find? (t : FileTree) (path : String) : Option (Option String) :=
  (t.placeOf path).toOption.bind t.at?

def hasDirectory (t : FileTree) (path : String) : Bool :=
  t.find? path == some none

def file? (t : FileTree) (path : String) : Option String :=
  (t.find? path).join

def filesBelow (t : FileTree) (path : String) : List (List String × String) :=
  match t.placeOf path with
  | .ok place => t.filesAt place
  | .error _ => []

/-! ### Operations that can fail -/

def readFile (t : FileTree) (path : String) : Except FileError String := do
  match t.at? (← t.placeOf path) with
  | some (some content) => .ok content
  | some none => .error .isADirectory
  | none => .error .nothingThere

def writeFile (t : FileTree) (path content : String) : Except FileError FileTree := do
  let place ← t.placeOf path
  if t.at? place = some none then .error .isADirectory else .ok (t.put place (some content))

def createDirectory (t : FileTree) (place : Place) (parts : List String) :
    Except FileError FileTree := do
  let place ← t.walk place parts
  if (t.at? place).isSome then .error .alreadyThere else .ok (t.put place none)

/-- Create a directory unless it is there. -/
def ensureDirectory (t : FileTree) (place : Place) (parts : List String) :
    Except FileError FileTree :=
  match t.createDirectory place parts with
  | .ok t => .ok t
  | .error e =>
    if (t.walk place parts).toOption.bind t.at? = some none then .ok t else .error e

/-- Create a directory and, where nothing is there, the ones that its path passes through;
    `back` holds the parts of the path, the last first.  The directories that were created
    in front of a failure stay. -/
def createFrom (t : FileTree) (place : Place) : List String → Except FileError Unit × FileTree
  | [] => (.ok (), t)
  | part :: back =>
    let parts := (part :: back).reverse
    match t.ensureDirectory place parts with
    | .ok t => (.ok (), t)
    | .error .nothingThere =>
      match t.createFrom place back with
      | (.ok (), t) =>
        match t.ensureDirectory place parts with
        | .ok t => (.ok (), t)
        | .error e => (.error e, t)
      | failed => failed
    | .error e => (.error e, t)

def createDirectories (t : FileTree) (path : String) : Except FileError Unit × FileTree :=
  if path.isEmpty then (.ok (), t)
  else
    match splitPath path with
    | .ok (place, parts) => t.createFrom place parts.reverse
    | .error e => (.error e, t)

end FileTree

/-! ### The world -/

structure Terminal where
  files : FileTree
  output : String
  errors : String
deriving DecidableEq, Repr, Inhabited

namespace Terminal

def start (files : FileTree) : Terminal := ⟨files, "", ""⟩

/-- The outcome of work on files, its failure in words. -/
def told {α : Type} (result : Except FileError α) : Except String α :=
  result.mapError FileError.message

def createDirectories (path : String) (t : Terminal) : Except String Unit × Terminal :=
  let (result, files) := t.files.createDirectories path
  (told result, { t with files := files })

/-- Write a file; a failure leaves the tree as it was. -/
def writeFile (path content : String) (t : Terminal) : Except String Unit × Terminal :=
  match t.files.writeFile path content with
  | .ok files => (.ok (), { t with files := files })
  | .error e => (.error e.message, t)

def world : World (StateM Terminal) where
  isFile path := return ((← get).files.file? path).isSome
  isDirectory path := return (← get).files.hasDirectory path
  readFile path := ExceptT.mk do return told ((← get).files.readFile path)
  filesBelow path := return ((← get).files.filesBelow path).map Prod.fst
  createDirectories path := ExceptT.mk <| modifyGet (createDirectories path)
  writeFile path content := ExceptT.mk <| modifyGet (writeFile path content)
  print text := modify fun t => { t with output := t.output ++ text }
  printError text := modify fun t => { t with errors := t.errors ++ text }

end Terminal

end ClientGen.CommandLine
