/-
  ClientGen/Diagnostics/Log.lean
  ==============================
  **The diagnostic log: a tree of steps and a list of records.**

  Every message is recorded once in raising order and attached to the step that was
  current.  Work inside a step is a state transformer that may fail; `task` closes
  its step however the work ends, and `die` closes every open step before it fails.
-/
import ClientGen.Diagnostics.Fatal
import ClientGen.Text.Blank

namespace ClientGen

open ClientGen.Text

/-! ### Records -/

/-- The weight of a record. -/
inductive Severity where
  | step
  | warning
  | error
deriving DecidableEq, Repr, Inhabited

def Severity.label : Severity → String
  | .step => "STEP"
  | .warning => "WARNING"
  | .error => "ERROR"

def Severity.keyword : Severity → String
  | .step => "step"
  | .warning => "warning"
  | .error => "error"

structure Diagnostic where
  severity : Severity
  message : String
  /-- The declaration that the message is about. -/
  symbol : Option String
  /-- Step names from the root to the step that raised the message. -/
  path : List String
deriving DecidableEq, Repr, Inhabited

/-! ### Steps -/

inductive StepStatus where
  | inProgress
  | completed
  | failed
deriving DecidableEq, Repr, Inhabited

mutual
/-- A step with what happened inside it, in order. -/
structure StepNode where
  name : String
  status : StepStatus
  entries : List StepEntry

inductive StepEntry where
  | message (d : Diagnostic)
  | step (s : StepNode)
end

deriving instance Repr, Inhabited for StepNode, StepEntry

def StepNode.opened (name : String) : StepNode :=
  ⟨name, .inProgress, []⟩

def StepNode.add (s : StepNode) (e : StepEntry) : StepNode :=
  { s with entries := s.entries ++ [e] }

/-- An open step becomes failed, a closed one stays as it is. -/
def StepNode.failIfOpen (s : StepNode) : StepNode :=
  if s.status = .inProgress then { s with status := .failed } else s

def StepEntry.isOpen : StepEntry → Bool
  | .message _ => false
  | .step s => s.status == .inProgress

def StepNode.openInside (s : StepNode) : Nat :=
  (s.entries.filter StepEntry.isOpen).length

/-- The failure of closing the step around others that are open. -/
def StepNode.closingDefect? (s : StepNode) : Option Fatal :=
  if 0 < s.openInside then
    some (.defect ("Step '" ++ s.name ++ "' finished with " ++ toString s.openInside
      ++ " child step(s) still in progress"))
  else none

mutual
def StepNode.count (severity : Severity) : StepNode → Nat
  | ⟨_, _, entries⟩ => StepEntry.countAll severity entries

def StepEntry.countAll (severity : Severity) : List StepEntry → Nat
  | [] => 0
  | .message d :: es =>
    (if d.severity = severity then 1 else 0) + StepEntry.countAll severity es
  | .step s :: es => s.count severity + StepEntry.countAll severity es
end

/-! ### Logs -/

/-- A log: the records in raising order, the current step, and the steps around it,
    the nearest first. -/
structure Log where
  records : List Diagnostic
  current : StepNode
  around : List StepNode
deriving Repr, Inhabited

namespace Log

def opened (name : String) : Log :=
  ⟨[], .opened name, []⟩

def path (log : Log) : List String :=
  (log.around.map StepNode.name).reverse ++ [log.current.name]

/-- Raise a message in the current step; blanks around it are dropped. -/
def push (log : Log) (severity : Severity) (message : String) (symbol : Option String) : Log :=
  let d : Diagnostic := ⟨severity, trim message, symbol, log.path⟩
  { log with records := log.records ++ [d], current := log.current.add (.message d) }

def enter (log : Log) (name : String) : Log :=
  { log with current := .opened name, around := log.current :: log.around }

def leave (log : Log) : Log :=
  match log.around with
  | [] => log
  | parent :: rest =>
    { log with current := parent.add (.step log.current), around := rest }

/-- Give the current step its final status, which fails around a step that is open.  A step
    that is already closed may only fail. -/
def close (log : Log) (status : StepStatus) : Option Fatal × Log :=
  if log.current.status = .inProgress then
    (log.current.closingDefect?, { log with current := { log.current with status := status } })
  else if status = .failed then (none, log)
  else (some (.defect ("Step '" ++ log.current.name ++ "' already finished")), log)

def failOpenSteps (log : Log) : Log :=
  { log with
    current := log.current.failIfOpen
    around := log.around.map StepNode.failIfOpen }

def tree (log : Log) : StepNode :=
  log.around.foldl (fun inner parent => parent.add (.step inner)) log.current

def count (log : Log) (severity : Severity) : Nat :=
  (log.records.filter fun d => d.severity == severity).length

def errorCount (log : Log) : Nat := log.count .error

def warningCount (log : Log) : Nat := log.count .warning

def isFinished (log : Log) : Bool :=
  log.tree.status != .inProgress

/-- Close the root step unless it is closed, and tell of a failure to close it. -/
def closeRoot (log : Log) : Option Fatal × Log :=
  if log.isFinished then (none, log) else log.close .completed

def finish (log : Log) : Log :=
  log.closeRoot.2

end Log

/-! ### Work inside a step -/

abbrev StepM (α : Type) : Type := ExceptT Fatal (StateM Log) α

namespace StepM

def raise (severity : Severity) (message : String) (symbol : Option String) : StepM Unit :=
  modify fun log => log.push severity message symbol

def note (message : String) : StepM Unit :=
  raise .step message none

def warn (message : String) (symbol : Option String) : StepM Unit :=
  raise .warning message symbol

def err (message : String) (symbol : Option String) : StepM Unit :=
  raise .error message symbol

/-- Raise an error, close every open step and fail. -/
def die {α : Type} (message : String) (symbol : Option String) : StepM α := do
  raise .error message symbol
  modify Log.failOpenSteps
  throw (.dying (trim message) symbol)

def errorCount : StepM Nat :=
  return (← get).current.count .error

def warningCount : StepM Nat :=
  return (← get).current.count .warning

/-- The result of work whose step was closed: a failure of closing is the result when
    the work succeeded and is attached when it failed. -/
def closeResult {α : Type} : Except Fatal α → Option Fatal → Except Fatal α
  | r, none => r
  | .ok _, some closing => .error closing
  | .error f, some closing => .error (f.suppress closing)

def closingStatus {α : Type} : Except Fatal α → StepStatus
  | .ok _ => .completed
  | .error _ => .failed

def exit {α : Type} (result : Except Fatal α) (log : Log) : Except Fatal α × Log :=
  let (closing, log) := log.close (closingStatus result)
  (closeResult result closing, log.leave)

/-- Run work inside a step of its own, which is closed however the work ends. -/
def task {α : Type} (name : String) (work : StepM α) : StepM α :=
  ExceptT.mk fun log =>
    let (result, log) := work.run.run (log.enter name)
    exit result log

end StepM

end ClientGen
