/-
  ClientGen/CommandLine/Command.lean
  ==================================
  **The commands.**

  Every input is one round of a build.  A command prints what its listener heard, and a
  failure ends it with status one.
-/
import ClientGen.CommandLine.Arguments
import ClientGen.CommandLine.Drift
import ClientGen.CommandLine.Input
import ClientGen.Json.Printer
import ClientGen.Model.Writer
import ClientGen.Round.Processor

namespace ClientGen.CommandLine

open ClientGen.Client ClientGen.Text

variable {m : Type → Type} [Monad m]

/-! ### Reports -/

/-- The word for a printed record; progress is not printed. -/
def severityWord? : Severity → Option String
  | .error => some "error"
  | .warning => some "warning"
  | .step => none

def recordText (d : Diagnostic) : String :=
  match severityWord? d.severity with
  | none => ""
  | some word =>
    word ++ ": " ++ d.message ++ "\n"
      ++ (match d.symbol with
          | some symbol => "  --> " ++ symbol ++ "\n"
          | none => "")

def printRecords (w : World m) (heard : Inbox) : CommandM m Unit :=
  w.printError (String.join (heard.records.map recordText))

def summary (heard : Inbox) : String :=
  toString (heard.ofSeverity .error).length ++ " error(s), "
    ++ toString (heard.ofSeverity .warning).length ++ " warning(s)"

/-! ### Builds -/

/-- A build and what was heard of it. -/
structure Build where
  processor : Processor
  heard : Inbox
deriving Repr, Inhabited

namespace Build

def start (options : Options) : Build :=
  ⟨.start options Check.all, .empty⟩

def after {α : Type} (b : Build) (call : Outcome α × Processor) : Build :=
  ⟨call.2, call.1.deliver b.processor.options b.heard⟩

end Build

/-- The result of a call; a failure is reported after what was heard. -/
def resultOf {α : Type} (w : World m) (heard : Inbox) (o : Outcome α) : CommandM m α := do
  match o.result with
  | .ok value => return value
  | .error f => do
    printRecords w heard
    throw f.display

/-- End a build and print what was heard of it. -/
def endBuild (w : World m) (b : Build) : CommandM m Inbox := do
  let call := b.processor.finish
  let heard := (b.after call).heard
  printRecords w heard
  match call.1.result with
  | .ok _ => return heard
  | .error f => throw f.display

/-! ### Generate -/

def generateRounds (w : World m) : Build → List String → CommandM m (List SourceFile × Build)
  | b, [] => return ([], b)
  | b, input :: inputs => do
    let t ← loadInput w input
    let call := b.processor.process t
    let b := b.after call
    let output ← resultOf w b.heard call.1
    let (files, b) ← generateRounds w b inputs
    return (output.files ++ files, b)

def writeSource (w : World m) (out : String) (f : SourceFile) : CommandM m Unit := do
  let path := continuePath out f.path
  let directory := parentPath path
  (w.createDirectories directory).adapt fun reason =>
    "Failed to create " ++ directory ++ ": " ++ reason
  (w.writeFile path f.content).adapt fun reason => "Failed to write " ++ path ++ ": " ++ reason

def writeSources (w : World m) (out : String) (files : List SourceFile) : CommandM m Unit := do
  files.forM (writeSource w out)
  w.print ("Generated " ++ toString files.length ++ " file(s) into " ++ out ++ "\n")

def driftOf (w : World m) (out : String) (f : SourceFile) : CommandM m FileDrift := do
  let current ← ExceptT.lift (w.readFile (continuePath out f.path)).run
  return ⟨f.path, f.content, current.toOption⟩

def outOfDate (out : String) (stale missing : Nat) : String :=
  "Generated sources in " ++ out ++ " are out of date: " ++ toString stale ++ " stale, "
    ++ toString missing ++ " missing"

def compareSources (w : World m) (out : String) (files : List SourceFile) : CommandM m Unit := do
  let drifts ← files.mapM (driftOf w out)
  w.print (String.join ((drifts.filterMap FileDrift.render).map (· ++ "\n")))
  let missing := (drifts.filter FileDrift.isMissing).length
  let stale := (drifts.filter FileDrift.isStale).length
  if 0 < missing + stale then throw (outOfDate out stale missing)
  w.print ("Checked " ++ toString files.length ++ " file(s) up to date\n")

def generateCommand (w : World m) (a : GenerateArguments) : CommandM m Unit := do
  let options ← MonadExcept.ofExcept (readOptions a.options)
  let (files, b) ← generateRounds w (.start options) a.inputs
  let heard ← endBuild w b
  if a.compare then compareSources w a.out files else writeSources w a.out files
  if !(heard.ofSeverity .error).isEmpty then
    throw ("KtorGen finished with " ++ summary heard)

/-! ### Check -/

def namedLines (word : String) (names : List String) : String :=
  String.join (names.map fun name => "  " ++ word ++ " " ++ name ++ "\n")

def verdictText (o : RoundOutput) : String :=
  namedLines "ok" o.valid ++ namedLines "invalid" o.dropped ++ namedLines "deferred" o.deferred
    ++ namedLines "skipped" o.skipped

/-- Run a round for every input without generating. -/
def checkRounds (w : World m) : Build → List String → CommandM m Build
  | b, [] => return b
  | b, input :: inputs => do
    let t ← loadInput w input
    let call := b.processor.check t
    let b := b.after call
    let output ← resultOf w b.heard call.1
    w.print (verdictText output)
    checkRounds w b inputs

def checkCommand (w : World m) (a : CheckArguments) : CommandM m Unit := do
  let options ← MonadExcept.ofExcept (readOptions a.options)
  let b ← checkRounds w (.start options) a.inputs
  let heard ← endBuild w b
  if !(heard.ofSeverity .error).isEmpty then
    throw ("Check failed: " ++ summary heard)
  w.print ("Check passed: " ++ summary heard ++ "\n")

/-! ### Inspect -/

def inspectCommand (w : World m) (a : InspectArguments) : CommandM m Unit := do
  let options ← MonadExcept.ofExcept (readOptions a.options)
  let t ← loadInput w a.input
  let o := Processor.inspect t
  printRecords w (o.deliver options .empty)
  match o.result with
  | .ok models =>
    w.print ((Json.arr (models.map InterfaceModel.toJson)).indented 0 ++ "\n")
  | .error f => throw f.display

/-! ### Command lines -/

def versionText : String := "ktorgen 0.4.0\n"

def helpText : String :=
  "Generates Ktor client implementations for annotated Kotlin interfaces\n\n"
    ++ "Usage: ktorgen [COMMAND]\n\nCommands:\n"
    ++ "  generate  Generate Kotlin sources, one processing round per input\n"
    ++ "  check     Extract and validate without generating\n"
    ++ "  inspect   Print the extracted interface models as JSON\n"
    ++ "  help      Print this message or the help of the given subcommand(s)\n\nOptions:\n"
    ++ "  -h, --help     Print help\n  -V, --version  Print version\n"

/-- The status of a command; the message of a failure is printed. -/
def statusOf (w : World m) (command : CommandM m Unit) : m Nat := do
  match ← command.run with
  | .ok _ => return 0
  | .error message => do
    w.printError (message ++ "\n")
    return 1

/-- Run what the command line asks for and give the status. -/
def Invocation.run (w : World m) : Invocation → m Nat
  | .generate a => statusOf w (generateCommand w a)
  | .check a => statusOf w (checkCommand w a)
  | .inspect a => statusOf w (inspectCommand w a)
  | .help => do
    w.print helpText
    return 0
  | .version => do
    w.print versionText
    return 0
  | .misuse reason => do
    w.printError ("error: " ++ reason ++ "\n\nFor more information, try '--help'.\n")
    return 2

def runCommandLine (w : World m) (arguments : List String) : m Nat :=
  (readArguments arguments).run w

end ClientGen.CommandLine
