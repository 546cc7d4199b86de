/-
  ClientGen/Diagnostics/Script.lean
  =================================
  **Scripts of nested tasks and messages.**

  A script says what happens inside a step.  An instruction that fails ends its
  script, a task's script with the failure of the task, unless the failure is
  swallowed.
-/
import ClientGen.Diagnostics.Log

namespace ClientGen

mutual
/-- One instruction, and whether its failure is swallowed. -/
inductive Instruction where
  | note (message : String)
  | warn (message : String) (symbol : Option String)
  | err (message : String) (symbol : Option String)
  | die (message : String) (symbol : Option String) (swallow : Bool)
  | fail (f : Fatal) (swallow : Bool)
  | task (name : String) (body : List Instruction) (swallow : Bool)
  /-- Observe the current step. -/
  | observe
end

deriving instance Repr, Inhabited for Instruction

/-- What a script leaves behind besides its log. -/
inductive Trace where
  /-- Name, errors and warnings of the current step. -/
  | observed (name : String) (errors warnings : Nat)
  /-- An instruction failed. -/
  | failed (f : Fatal)
deriving Repr, Inhabited

/-- A finished run: the result, the trace it left, and the log. -/
structure ScriptRun where
  result : Except Fatal Unit
  trace : List Trace
  log : Log

/-- The end of an instruction: a failure is traced and goes on unless swallowed. -/
def settle (swallow : Bool) (trace : List Trace) (log : Log) :
    Except Fatal Unit → ScriptRun
  | .ok _ => ⟨.ok (), trace, log⟩
  | .error f => ⟨if swallow then .ok () else .error f, trace ++ [.failed f], log⟩

def Log.observed (log : Log) : Trace :=
  .observed log.current.name (log.current.count .error) (log.current.count .warning)

def ScriptRun.ofStep (work : StepM Unit) (log : Log) : Except Fatal Unit × Log :=
  work.run.run log

mutual
def Instruction.run : Instruction → Log → ScriptRun
  | .note message, log => ⟨.ok (), [], log.push .step message none⟩
  | .warn message symbol, log => ⟨.ok (), [], log.push .warning message symbol⟩
  | .err message symbol, log => ⟨.ok (), [], log.push .error message symbol⟩
  | .die message symbol swallow, log =>
    let (result, log) := ScriptRun.ofStep (StepM.die message symbol) log
    settle swallow [] log result
  | .fail f swallow, log => settle swallow [] log (.error f)
  | .task name body swallow, log =>
    let inner := Instruction.runAll body (log.enter name)
    let (result, log) := StepM.exit inner.result inner.log
    settle swallow inner.trace log result
  | .observe, log => ⟨.ok (), [log.observed], log⟩

def Instruction.runAll : List Instruction → Log → ScriptRun
  | [], log => ⟨.ok (), [], log⟩
  | i :: is, log =>
    let first := i.run log
    match first.result with
    | .error _ => first
    | .ok _ =>
      let rest := Instruction.runAll is first.log
      { rest with trace := first.trace ++ rest.trace }
end

def runScript (name : String) (script : List Instruction) : ScriptRun :=
  Instruction.runAll script (.opened name)

end ClientGen
