/-
  ClientGen/Diagnostics/Report.lean
  =================================
  **Reports over a log.**

  A log is a value without a clock: a closed step shows the mark `T` in the place of
  its time, an open one two dashes.
-/
import ClientGen.Diagnostics.Log

namespace ClientGen

open ClientGen.Text

/-! ### Parts of a line -/

namespace StepNode

/-- The sign in front of a step: open, failed or with errors inside, and fine. -/
def icon (s : StepNode) : String :=
  match s.status with
  | .inProgress => "…"
  | .failed => "✖"
  | .completed => if 0 < s.count .error then "✖" else "✔"

def time (s : StepNode) : String :=
  match s.status with
  | .inProgress => "(--)"
  | _ => "(T)"

def depthLabel : Nat → String
  | 0 => "Processor"
  | 1 => "Phase"
  | _ => "Task"

def headline (s : StepNode) (depth : Nat) : String :=
  s.icon ++ " " ++ depthLabel depth ++ ": " ++ s.name ++ " " ++ s.time

end StepNode

/-! ### Full tree -/

def Diagnostic.treeLine (d : Diagnostic) (indent : String) : String :=
  indent ++ "┣─ " ++ d.severity.label ++ ": " ++ d.message
    ++ (match d.symbol with | some s => " (at " ++ s ++ ")" | none => "") ++ "\n"

mutual
/-- The lines of a step that lies `depth` steps below the root, the line of the step
    itself left out. -/
def StepNode.treeLines (depth : Nat) : StepNode → String
  | ⟨_, _, entries⟩ => StepEntry.treeLines depth entries

def StepEntry.treeLines (depth : Nat) : List StepEntry → String
  | [] => ""
  | .message d :: es => d.treeLine (times depth "┃   ") ++ StepEntry.treeLines depth es
  | .step s :: es =>
    times depth "┃   " ++ "┣─ " ++ s.headline (depth + 1) ++ "\n"
      ++ s.treeLines (depth + 1) ++ StepEntry.treeLines depth es
end

def Log.treeReport (log : Log) : String :=
  let root := log.tree
  "┌─ " ++ root.headline 0 ++ "\n" ++ root.treeLines 0
    ++ "└─ Summary: " ++ toString log.errorCount ++ " error(s), "
    ++ toString log.warningCount ++ " warning(s)\n"

/-! ### Filtered reports -/

def Diagnostic.filteredLines (d : Diagnostic) (indent : String) : String :=
  indent ++ "  " ++ d.severity.label ++ ": " ++ d.message ++ "\n"
    ++ (match d.symbol with | some s => indent ++ "    -> at " ++ s ++ "\n" | none => "")

def StepNode.holds (severities : List Severity) (s : StepNode) : Bool :=
  severities.any fun severity => 0 < s.count severity

mutual
/-- The lines of a step, nothing when it holds no record of the weights. -/
def StepNode.filteredLines (severities : List Severity) (level : Nat) : StepNode → String
  | ⟨name, status, entries⟩ =>
    let s : StepNode := ⟨name, status, entries⟩
    if s.holds severities then
      times level "  " ++ s.icon ++ " " ++ name ++ " " ++ s.time ++ "\n"
        ++ StepEntry.filteredLines severities level entries
    else ""

def StepEntry.filteredLines (severities : List Severity) (level : Nat) :
    List StepEntry → String
  | [] => ""
  | .message d :: es =>
    (if severities.contains d.severity then d.filteredLines (times level "  ") else "")
      ++ StepEntry.filteredLines severities level es
  | .step s :: es =>
    s.filteredLines severities (level + 1) ++ StepEntry.filteredLines severities level es
end

def Log.filteredReport (log : Log) (title : String) (severities : List Severity) : String :=
  let root := log.tree
  title ++ " found during \"" ++ root.name ++ "\" execution:\n"
    ++ root.filteredLines severities 0

def Log.errorsReport (log : Log) : String :=
  log.filteredReport "Errors" [.error]

def Log.warningsReport (log : Log) : String :=
  log.filteredReport "Warnings" [.warning]

def Log.problemsReport (log : Log) : String :=
  log.filteredReport "Errors and warnings" [.error, .warning]

end ClientGen
