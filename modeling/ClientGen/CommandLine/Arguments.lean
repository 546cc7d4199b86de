/-
  ClientGen/CommandLine/Arguments.lean
  ====================================
  **Reading the command line.**

  A command takes inputs in any place between its options.  The first misuse from the
  left ends the reading, and so does the first request for help.
-/
import ClientGen.Text.Split

namespace ClientGen.CommandLine

open ClientGen.Text

/-! ### Commands -/

/-- Write generated files, or compare them with what is there. -/
structure GenerateArguments where
  inputs : List String
  out : String
  options : List String
  compare : Bool
deriving DecidableEq, Repr, Inhabited

structure CheckArguments where
  inputs : List String
  options : List String
deriving DecidableEq, Repr, Inhabited

structure InspectArguments where
  input : String
  options : List String
deriving DecidableEq, Repr, Inhabited

inductive Invocation where
  | generate (arguments : GenerateArguments)
  | check (arguments : CheckArguments)
  | inspect (arguments : InspectArguments)
  | help
  | version
  /-- The command line is misused. -/
  | misuse (reason : String)
deriving DecidableEq, Repr, Inhabited

/-! ### Options -/

/-- What a command accepts. -/
structure Grammar where
  takesOut : Bool
  takesCompare : Bool
  /-- How many inputs are accepted at most, when there is a limit. -/
  maxInputs : Option Nat
deriving DecidableEq, Repr

structure Reading where
  inputs : List String
  out : Option String
  options : List String
  compare : Bool
deriving DecidableEq, Repr, Inhabited

namespace Reading

def empty : Reading := ⟨[], none, [], false⟩

end Reading

/-- Why reading stops early. -/
inductive Stop where
  | help
  | misuse (reason : String)
deriving DecidableEq, Repr, Inhabited

inductive ValueOption where
  | out
  | setting
deriving DecidableEq, Repr

inductive Token where
  /-- An option with the value attached to it, if any. -/
  | value (option : ValueOption) (attached : Option String)
  | compare
  | help
  /-- Everything behind it is an input. -/
  | separator
  | input
  | unknown
deriving DecidableEq, Repr

/-- The name and the attached value of a long option. -/
def splitLong (body : List Char) : String × Option String :=
  match splitFirst '=' body with
  | some (name, value) => (String.ofList name, some (String.ofList value))
  | none => (String.ofList body, none)

def longToken (g : Grammar) (body : List Char) : Token :=
  match splitLong body with
  | ("option", attached) => .value .setting attached
  | ("out", attached) => if g.takesOut then .value .out attached else .unknown
  | ("check", none) => if g.takesCompare then .compare else .unknown
  | ("help", none) => .help
  | _ => .unknown

/-- The value attached to a short option; an equals sign in front of it is dropped. -/
def shortValue : List Char → Option String
  | [] => none
  | '=' :: value => some (String.ofList value)
  | value => some (String.ofList value)

def tokenOf (g : Grammar) (argument : String) : Token :=
  match argument.toList with
  | ['-', '-'] => .separator
  | '-' :: '-' :: body => longToken g body
  | '-' :: 'o' :: attached => .value .setting (shortValue attached)
  | '-' :: 'h' :: _ => .help
  | '-' :: _ :: _ => .unknown
  | _ => .input

/-! ### Reading arguments -/

def Reading.takeInput (r : Reading) (g : Grammar) (input : String) : Except Stop Reading :=
  if input.isEmpty then .error (.misuse "an input must not be empty")
  else if g.maxInputs.any fun n => n ≤ r.inputs.length then
    .error (.misuse ("unexpected argument '" ++ input ++ "'"))
  else .ok { r with inputs := r.inputs ++ [input] }

def Reading.takeValue (r : Reading) (option : ValueOption) (value : String) :
    Except Stop Reading :=
  match option with
  | .setting => .ok { r with options := r.options ++ [value] }
  | .out =>
    if r.out.isSome then .error (.misuse "'--out' cannot be used several times")
    else if value.isEmpty then .error (.misuse "'--out' needs a directory")
    else .ok { r with out := some value }

def Reading.takeCompare (r : Reading) : Except Stop Reading :=
  if r.compare then .error (.misuse "'--check' cannot be used several times")
  else .ok { r with compare := true }

def Reading.takeInputs (g : Grammar) : Reading → List String → Except Stop Reading
  | r, [] => .ok r
  | r, a :: as =>
    match r.takeInput g a with
    | .error stop => .error stop
    | .ok r => takeInputs g r as

def Reading.takeAll (g : Grammar) : Reading → List String → Except Stop Reading
  | r, [] => .ok r
  | r, a :: as =>
    match tokenOf g a with
    | .input => (r.takeInput g a).bind fun r => takeAll g r as
    | .compare => r.takeCompare.bind fun r => takeAll g r as
    | .help => .error .help
    | .unknown => .error (.misuse ("unexpected argument '" ++ a ++ "'"))
    | .separator => r.takeInputs g as
    | .value option (some value) => (r.takeValue option value).bind fun r => takeAll g r as
    | .value option none =>
      match as with
      | [] => .error (.misuse ("'" ++ a ++ "' needs a value"))
      | value :: rest =>
        if tokenOf g value = .input then
          (r.takeValue option value).bind fun r => takeAll g r rest
        else .error (.misuse ("'" ++ a ++ "' needs a value"))

/-! ### Whole command lines -/

def Stop.invocation : Stop → Invocation
  | .help => .help
  | .misuse reason => .misuse reason

def readGenerate (arguments : List String) : Invocation :=
  match Reading.takeAll ⟨true, true, none⟩ .empty arguments with
  | .error stop => stop.invocation
  | .ok r =>
    match r.inputs, r.out with
    | [], _ => .misuse "an input is missing"
    | _, none => .misuse "'--out' is missing"
    | inputs, some out => .generate ⟨inputs, out, r.options, r.compare⟩

def readCheck (arguments : List String) : Invocation :=
  match Reading.takeAll ⟨false, false, none⟩ .empty arguments with
  | .error stop => stop.invocation
  | .ok r =>
    match r.inputs with
    | [] => .misuse "an input is missing"
    | inputs => .check ⟨inputs, r.options⟩

def readInspect (arguments : List String) : Invocation :=
  match Reading.takeAll ⟨false, false, some 1⟩ .empty arguments with
  | .error stop => stop.invocation
  | .ok r =>
    match r.inputs with
    | [input] => .inspect ⟨input, r.options⟩
    | _ => .misuse "an input is missing"

/-- The commands, `help` included. -/
def commandNames : List String :=
  ["generate", "check", "inspect", "help"]

/-- The arguments of `help`: at most the name of one command. -/
def readHelp : List String → Invocation
  | [] => .help
  | [name] =>
    if commandNames.contains name then .help
    else .misuse ("unrecognized subcommand '" ++ name ++ "'")
  | _ => .misuse "too many subcommands"

/-- The first letter of a cluster of short options decides. -/
def readLeadingOption (argument : String) : Invocation :=
  match argument.toList with
  | '-' :: 'h' :: _ => .help
  | '-' :: 'V' :: _ => .version
  | _ => .misuse ("unexpected argument '" ++ argument ++ "'")

/-- Read a command line without the name of the program. -/
def readArguments : List String → Invocation
  | [] => .help
  | "generate" :: arguments => readGenerate arguments
  | "check" :: arguments => readCheck arguments
  | "inspect" :: arguments => readInspect arguments
  | "help" :: arguments => readHelp arguments
  | "--help" :: _ => .help
  | "--version" :: _ => .version
  | ["--"] => .help
  | argument :: _ => readLeadingOption argument

end ClientGen.CommandLine
