/-
  ClientGen/Round/Verdict.lean
  ============================
  **What becomes of a candidate.**

  Each candidate is judged in a step of its own, so a bad interface drops only itself.
  A round stops at the first failure and keeps what it judged before.
-/
import ClientGen.Client.Generation
import ClientGen.Round.Candidate
import ClientGen.Validation.Pipeline

namespace ClientGen

open ClientGen.Client

/-! ### Verdicts -/

/-- What a round does with an accepted interface. -/
inductive RoundMode where
  | generate
  /-- Nothing is written. -/
  | check
deriving DecidableEq, Repr, Inhabited

inductive Verdict where
  /-- Accepted, with its generated files. -/
  | valid (files : List SourceFile)
  /-- Errors were recorded. -/
  | dropped
  /-- Waiting for types that are not yet resolved. -/
  | deferred
  /-- The settings say not to generate. -/
  | skipped
deriving Repr, Inhabited

/-- What every candidate of a round is judged by. -/
structure RoundRules where
  mode : RoundMode
  options : Options
  checks : List Check
deriving DecidableEq, Repr, Inhabited

/-- A verdict with the factories that are registered after it. -/
abbrev Judged : Type := Verdict × FactoryRegistry

def RoundRules.generateFiles (r : RoundRules) (registry : FactoryRegistry) (m : InterfaceModel) :
    StepM Judged :=
  match r.mode with
  | .check => return (.valid [], registry)
  | .generate => do
    let (files, registry) ← generate m r.options registry
    return (.valid files, registry)

def RoundRules.judgeModel (r : RoundRules) (registry : FactoryRegistry) (m : InterfaceModel) :
    StepM Judged := do
  match ← validate r.checks m r.options with
  | none => return (.dropped, registry)
  | some m => r.generateFiles registry m

/-- Defer a candidate, unless it was deferred often enough. -/
def RoundRules.judgeUnresolved (r : RoundRules) (registry : FactoryRegistry) (c : Candidate)
    (names : List String) : StepM Judged :=
  if r.options.maxDeferredRounds < c.deferrals + 1 then
    StepM.die (Problem.unresolvedSymbols names).message (some c.name)
  else return (.deferred, registry)

def RoundRules.judgeExtraction (r : RoundRules) (registry : FactoryRegistry) (c : Candidate) :
    Extraction → StepM Judged
  | .ready m => r.judgeModel registry m
  | .deferred names => r.judgeUnresolved registry c names
  | .rejected => return (.dropped, registry)
  | .skipped => return (.skipped, registry)

def RoundRules.judge (r : RoundRules) (t : SymbolTable) (registry : FactoryRegistry)
    (c : Candidate) : StepM Judged :=
  StepM.task ("Interface " ++ c.name) do
    let extraction ← c.declaration.extract (t.factoriesOf c.name)
    r.judgeExtraction registry c extraction

/-! ### All candidates -/

structure Judgement where
  candidate : Candidate
  verdict : Verdict
deriving Repr, Inhabited

/-- What was judged, and the failure that ended it. -/
structure Judgements where
  judged : List Judgement
  failure : Option Fatal
  log : Log
deriving Repr, Inhabited

/-- Judge candidates in order until one fails. -/
def RoundRules.judgeAll (r : RoundRules) (t : SymbolTable) :
    FactoryRegistry → List Candidate → Log → Judgements
  | _, [], log => ⟨[], none, log⟩
  | registry, c :: cs, log =>
    match (r.judge t registry c).run.run log with
    | (.error f, log) => ⟨[], some f, log⟩
    | (.ok (verdict, registry), log) =>
      let rest := r.judgeAll t registry cs log
      { rest with judged := ⟨c, verdict⟩ :: rest.judged }

/-- The declarations that wait for the next round. -/
def pendingAfter (judged : List Judgement) : Pending :=
  judged.foldl (fun pending j =>
    match j.verdict with
    | .deferred => Ascending.put j.candidate.name j.candidate.defer pending
    | _ => pending) []

end ClientGen
