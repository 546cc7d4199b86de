/-
  ClientGen/Round/Processor.lean
  ==============================
  **The rounds of a build.**

  A processor lives across rounds and remembers what they deferred.  Every call gives a
  result and a closed log; a listener hears of both through the options.
-/
import ClientGen.Diagnostics.Delivery
import ClientGen.Round.Verdict

namespace ClientGen

open ClientGen.Client ClientGen.Text

/-! ### Output -/

structure RoundOutput where
  judged : List Judgement
  errors : Nat
  warnings : Nat
deriving Repr, Inhabited

namespace RoundOutput

def names (o : RoundOutput) (select : Verdict → Bool) : List String :=
  (o.judged.filter fun j => select j.verdict).map fun j => j.candidate.name

def valid (o : RoundOutput) : List String :=
  o.names fun | .valid _ => true | _ => false

def dropped (o : RoundOutput) : List String :=
  o.names fun | .dropped => true | _ => false

def deferred (o : RoundOutput) : List String :=
  o.names fun | .deferred => true | _ => false

def skipped (o : RoundOutput) : List String :=
  o.names fun | .skipped => true | _ => false

def filesOf : Verdict → List SourceFile
  | .valid files => files
  | _ => []

def files (o : RoundOutput) : List SourceFile :=
  o.judged.flatMap fun j => filesOf j.verdict

def hasErrors (o : RoundOutput) : Bool :=
  0 < o.errors

end RoundOutput

/-! ### Results -/

/-- The result of a call with its log. -/
structure Outcome (α : Type) where
  result : Except Fatal α
  log : Log

namespace Outcome

def failure? {α : Type} (o : Outcome α) : Option Fatal :=
  match o.result with
  | .ok _ => none
  | .error f => some f

/-- Close the log behind a result; a failure to close it takes part in the result. -/
def closing {α : Type} (result : Except Fatal α) (log : Log) : Outcome α :=
  ⟨StepM.closeResult result log.closeRoot.1, log.finish⟩

/-- Run work in the root step of a log and close the log. -/
def ofWork {α : Type} (name : String) (work : StepM α) : Outcome α :=
  let (result, log) := work.run.run (.opened name)
  closing result log

def announcements {α : Type} (o : Outcome α) (options : Options) : List String :=
  (o.failure?.map fun f => f.announcement options.printCauses).toList

def deliver {α : Type} (o : Outcome α) (options : Options) (b : Inbox) : Inbox :=
  (o.announcements options).foldl Inbox.announce (b.receive (o.log.delivered options.checkLevel))

def events {α : Type} (o : Outcome α) (options : Options) : List Event :=
  (o.log.delivered options.checkLevel).map Diagnostic.event
    ++ (o.failure?.map fun f => f.event options.printCauses).toList

end Outcome

/-! ### Processors -/

/-- What lives across rounds. -/
structure Processor where
  options : Options
  checks : List Check
  pending : Pending
  /-- How many rounds were run. -/
  rounds : UInt32
deriving Repr, Inhabited

namespace Processor

def start (options : Options) (checks : List Check) : Processor :=
  ⟨options, checks, [], 0⟩

def pendingNames (p : Processor) : List String :=
  p.pending.map Prod.fst

def rules (p : Processor) (mode : RoundMode) : RoundRules :=
  ⟨mode, p.options, p.checks⟩

def roundName (round : UInt32) : String :=
  "KtorGen round " ++ toString round.toNat

def roundOutcome (j : Judgements) : Outcome RoundOutput :=
  let result := match j.failure with
    | some f => .error f
    | none => .ok ⟨j.judged, j.log.errorCount, j.log.warningCount⟩
  .closing result j.log

def run (p : Processor) (mode : RoundMode) (t : SymbolTable) : Outcome RoundOutput × Processor :=
  let j := (p.rules mode).judgeAll t .empty (roundCandidates t p.pending)
    (.opened (roundName (p.rounds + 1)))
  (roundOutcome j, { p with pending := pendingAfter j.judged, rounds := p.rounds + 1 })

def process (p : Processor) (t : SymbolTable) : Outcome RoundOutput × Processor :=
  p.run .generate t

def check (p : Processor) (t : SymbolTable) : Outcome RoundOutput × Processor :=
  p.run .check t

/-! ### The last round -/

/-- The end of a build, which dies of what is still deferred. -/
def finishWork (p : Processor) : StepM Unit :=
  if p.pending.isEmpty then return ()
  else StepM.die (Problem.unresolvedSymbols p.pendingNames).message none

/-- End a build; nothing is deferred any more. -/
def finish (p : Processor) : Outcome Unit × Processor :=
  (.ofWork "KtorGen finish" p.finishWork, { p with pending := [] })

/-! ### Inspection -/

def modelOf? : Extraction → Option InterfaceModel
  | .ready m => some m
  | _ => none

def extractAll (t : SymbolTable) : List ClassDeclaration → StepM (List InterfaceModel)
  | [] => return []
  | c :: cs => do
    let extraction ← StepM.task ("Extract " ++ c.qualifiedName)
      (c.extract (t.factoriesOf c.qualifiedName))
    let rest ← extractAll t cs
    return (modelOf? extraction).toList ++ rest

/-- The models of the candidates of a table, unchecked. -/
def inspect (t : SymbolTable) : Outcome (List InterfaceModel) :=
  .ofWork "KtorGen inspect" (extractAll t t.candidates)

end Processor

end ClientGen
