/-
  ClientGen/Proofs/Diagnostics/Scripts.lean
  =========================================
  **Scripts whose failures are all raised by `die` and go on.**

  In such a script the first `die` ends everything, and what was executed can be read off
  the script alone (`executed`).  Its run conducts itself so in every log (`does_workAll`):
  `die` closes the steps around it before they are closed by their tasks, and this second
  closing never adds a failure.  In a new log every step ends closed, those around the
  `die` as failed and all others as completed (`structured_run`).
-/
import ClientGen.Diagnostics.Script
import ClientGen.Proofs.Diagnostics.Conduct

namespace ClientGen

open ClientGen.Text

/-! ### Structured scripts -/

mutual
/-- Messages, observations, `die`, and tasks of these; no failure is swallowed. -/
def Instruction.isStructured : Instruction → Bool
  | .note _ => true
  | .warn _ _ => true
  | .err _ _ => true
  | .die _ _ swallow => !swallow
  | .fail _ _ => false
  | .task _ body swallow => !swallow && Instruction.allStructured body
  | .observe => true

def Instruction.allStructured : List Instruction → Bool
  | [] => true
  | i :: is => i.isStructured && Instruction.allStructured is
end

/-- A `die` with the names of the tasks around it, the outermost first. -/
structure DieCall where
  message : String
  symbol : Option String
  tasks : List String
deriving DecidableEq, Repr

namespace DieCall

def within (name : String) (d : DieCall) : DieCall :=
  { d with tasks := name :: d.tasks }

def failure (d : DieCall) : Fatal :=
  .dying (trim d.message) d.symbol

/-- The record that the call pushes, in a script inside the step at a path. -/
def record (path : List String) (d : DieCall) : Diagnostic :=
  ⟨.error, trim d.message, d.symbol, path ++ d.tasks⟩

/-- How a script ends whose first call is the given one. -/
def ending : Option DieCall → Ending Unit
  | none => .returns ()
  | some d => .dies d.failure

theorem ending_map_within (name : String) (d : Option DieCall) :
    ending (d.map (within name)) = ending d := by
  cases d with
  | none => rfl
  | some d => rfl

end DieCall

mutual
/-- The `die` that the instruction executes. -/
def Instruction.dieCall? : Instruction → Option DieCall
  | .die message symbol _ => some ⟨message, symbol, []⟩
  | .task name body _ => (Instruction.firstDieCall? body).map (DieCall.within name)
  | _ => none

/-- The first `die` that is executed. -/
def Instruction.firstDieCall? : List Instruction → Option DieCall
  | [] => none
  | i :: is => i.dieCall?.or (Instruction.firstDieCall? is)
end

mutual
/-- What an instruction does to the current step. -/
def Instruction.happenings : Instruction → List Happening
  | .note message => [.message .step (trim message) none]
  | .warn message symbol => [.message .warning (trim message) symbol]
  | .err message symbol => [.message .error (trim message) symbol]
  | .die message symbol _ => [.message .error (trim message) symbol]
  | .fail _ _ => []
  | .task name body _ =>
    [.step name (DieCall.ending (Instruction.firstDieCall? body)).closing
      (Instruction.executed body)]
  | .observe => []

/-- What is done up to the first `die`. -/
def Instruction.executed : List Instruction → List Happening
  | [] => []
  | i :: is => i.happenings ++ if i.dieCall?.isSome then [] else Instruction.executed is
end

/-! ### Scripts as work inside a step -/

namespace Instruction

/-- The instruction as work inside a step. -/
def work (i : Instruction) : StepM Unit :=
  ExceptT.mk fun log => ((i.run log).result, (i.run log).log)

def workAll (is : List Instruction) : StepM Unit :=
  ExceptT.mk fun log => ((runAll is log).result, (runAll is log).log)

theorem workAll_cons (i : Instruction) (is : List Instruction) :
    workAll (i :: is) = i.work >>= fun _ => workAll is := by
  funext log
  change ((runAll (i :: is) log).result, (runAll (i :: is) log).log)
    = (i.work >>= fun _ => workAll is).run.run log
  have hfirst : i.work.run.run log = ((i.run log).result, (i.run log).log) := rfl
  rw [StepM.run_bind, hfirst, runAll]
  cases hresult : (i.run log).result with
  | ok a => rfl
  | error f => simp only [hresult]

/-- What is not swallowed goes on as it is. -/
theorem settle_going (trace : List Trace) (log : Log) (result : Except Fatal Unit) :
    (settle false trace log result).result = result
      ∧ (settle false trace log result).log = log := by
  cases result with
  | ok a => exact ⟨rfl, rfl⟩
  | error f => exact ⟨rfl, rfl⟩

theorem work_task (name : String) (body : List Instruction) :
    (task name body false).work = StepM.task name (workAll body) := by
  funext log
  change ((run (.task name body false) log).result, (run (.task name body false) log).log)
    = StepM.exit (runAll body (log.enter name)).result (runAll body (log.enter name)).log
  rw [run]
  obtain ⟨hresult, hlog⟩ := settle_going (runAll body (log.enter name)).trace
    (StepM.exit (runAll body (log.enter name)).result (runAll body (log.enter name)).log).2
    (StepM.exit (runAll body (log.enter name)).result (runAll body (log.enter name)).log).1
  exact Prod.ext hresult hlog

mutual
/-- A structured instruction does the same in every log. -/
theorem does_work : ∀ i : Instruction, i.isStructured = true →
    Does i.work ⟨DieCall.ending i.dieCall?, i.happenings⟩
  | .note message, _ => Does.raise .step message none
  | .warn message symbol, _ => Does.raise .warning message symbol
  | .err message symbol, _ => Does.raise .error message symbol
  | .observe, _ => Does.pure ()
  | .die message symbol false, _ => Does.die message symbol
  | .task name body false, h => by
    -- A body that dies has closed the step of the task already, and the step is closed again.
    rw [work_task]
    have hbody := (does_workAll body (by simpa [isStructured] using h)).task name
    rw [dieCall?, DieCall.ending_map_within]
    exact hbody

/-- What comes behind a `die` is not executed. -/
theorem does_workAll : ∀ is : List Instruction, allStructured is = true →
    Does (workAll is) ⟨DieCall.ending (firstDieCall? is), executed is⟩
  | [], _ => Does.pure ()
  | i :: is, h => by
    rw [allStructured, Bool.and_eq_true] at h
    have hfirst := does_work i h.1
    have hrest := does_workAll is h.2
    rw [workAll_cons, firstDieCall?, executed]
    cases hcall : i.dieCall? with
    | none =>
      rw [hcall] at hfirst
      exact hfirst.followed hrest rfl
    | some d =>
      rw [hcall] at hfirst
      have hends := hfirst.bind fun _ => hrest
      rw [Option.some_or, Option.isSome_some, if_pos rfl, List.append_nil]
      exact hends
end

/-- A structured script inside the root step of a new log. -/
theorem runScript_eq {script : List Instruction} (h : allStructured script = true)
    (name : String) :
    (runScript name script).result = (DieCall.ending (firstDieCall? script)).result
      ∧ (runScript name script).log
        = (DieCall.ending (firstDieCall? script)).settle
            ((Log.opened name).after (executed script)) :=
  Prod.mk.inj (does_workAll script h (.opened name))

end Instruction

/-! ### Records -/

namespace Instruction

mutual
/-- The record of a `die` is the last one of the instruction that executes it. -/
theorem allRecords_happenings (path : List String) : ∀ (i : Instruction) (d : DieCall),
    i.dieCall? = some d →
      ∃ before, Happening.allRecords path i.happenings = before ++ [d.record path]
  | .die message symbol _, d, hd => by
    cases hd
    exact ⟨[], by simp [happenings, Happening.allRecords, Happening.records, DieCall.record]⟩
  | .task name body _, d, hd => by
    rw [dieCall?] at hd
    obtain ⟨inner, hinner, rfl⟩ := Option.map_eq_some_iff.mp hd
    obtain ⟨before, hbefore⟩ := allRecords_executed (path ++ [name]) body inner hinner
    refine ⟨before, ?_⟩
    rw [happenings, Happening.allRecords, Happening.records, hbefore]
    simp [Happening.allRecords, DieCall.record, DieCall.within]

theorem allRecords_executed (path : List String) : ∀ (is : List Instruction) (d : DieCall),
    firstDieCall? is = some d →
      ∃ before, Happening.allRecords path (executed is) = before ++ [d.record path]
  | i :: is, d, hd => by
    rw [firstDieCall?] at hd
    rw [executed, Happening.allRecords_append]
    cases hcall : i.dieCall? with
    | none =>
      rw [hcall] at hd
      obtain ⟨before, hbefore⟩ := allRecords_executed path is d hd
      refine ⟨Happening.allRecords path i.happenings ++ before, ?_⟩
      simp [hbefore]
    | some first =>
      -- Nothing is executed behind the first call.
      rw [hcall] at hd
      cases hd
      obtain ⟨before, hbefore⟩ := allRecords_happenings path i d hcall
      exact ⟨before, by simp [hbefore, Happening.allRecords]⟩
end

end Instruction

/-! ### Steps -/

mutual
/-- The steps of a tree with their names, each before those inside it. -/
def StepNode.steps : StepNode → List (String × StepStatus)
  | ⟨name, status, entries⟩ => (name, status) :: StepEntry.allSteps entries

def StepEntry.allSteps : List StepEntry → List (String × StepStatus)
  | [] => []
  | .message _ :: es => StepEntry.allSteps es
  | .step s :: es => s.steps ++ StepEntry.allSteps es
end

/-- The names of the failed steps among some steps. -/
def failedSteps (steps : List (String × StepStatus)) : List String :=
  (steps.filter fun s => s.2 == .failed).map Prod.fst

theorem failedSteps_cons (name : String) (status : StepStatus)
    (steps : List (String × StepStatus)) :
    failedSteps ((name, status) :: steps)
      = if status = .failed then name :: failedSteps steps else failedSteps steps := by
  by_cases h : status = .failed
  · simp [failedSteps, h]
  · simp [failedSteps, h]

theorem failedSteps_append (steps steps' : List (String × StepStatus)) :
    failedSteps (steps ++ steps') = failedSteps steps ++ failedSteps steps' := by
  simp [failedSteps]

theorem StepEntry.allSteps_append (es es' : List StepEntry) :
    StepEntry.allSteps (es ++ es') = StepEntry.allSteps es ++ StepEntry.allSteps es' := by
  induction es with
  | nil => rfl
  | cons e es ih =>
    cases e with
    | message d => simpa only [List.cons_append, StepEntry.allSteps] using ih
    | step s => simp only [List.cons_append, StepEntry.allSteps, ih, List.append_assoc]

/-- Every step that happened is closed. -/
theorem Happening.closed_of_mem_allSteps (path : List String) (hs : List Happening) :
    ∀ s ∈ StepEntry.allSteps (Happening.entries path hs), s.2 ≠ .inProgress := by
  match hs with
  | [] => exact fun s hs => nomatch hs
  | .message severity text symbol :: hs => exact closed_of_mem_allSteps path hs
  | .step name closing inner :: hs =>
    have hinner := closed_of_mem_allSteps (path ++ [name]) inner
    have hrest := closed_of_mem_allSteps path hs
    intro s hs
    simp only [Happening.entries, Happening.entry, StepEntry.allSteps, StepNode.steps,
      List.cons_append, List.mem_cons, List.mem_append] at hs
    rcases hs with rfl | hs | hs
    · exact closing.status_ne_inProgress
    · exact hinner s hs
    · exact hrest s hs

namespace Instruction

mutual
/-- The steps that fail are the tasks around the `die`. -/
theorem failedSteps_happenings (path : List String) : ∀ i : Instruction,
    failedSteps (StepEntry.allSteps (Happening.entries path i.happenings))
      = i.dieCall?.elim [] DieCall.tasks
  | .note _ => rfl
  | .warn _ _ => rfl
  | .err _ _ => rfl
  | .die _ _ _ => rfl
  | .fail _ _ => rfl
  | .observe => rfl
  | .task name body _ => by
    have hbody := failedSteps_executed (path ++ [name]) body
    have hsteps : StepEntry.allSteps (Happening.entries path
          (Instruction.task name body false).happenings)
        = (name, (DieCall.ending (firstDieCall? body)).closing.status)
          :: StepEntry.allSteps (Happening.entries (path ++ [name]) (executed body)) := by
      simp [happenings, Happening.entries, Happening.entry, StepEntry.allSteps, StepNode.steps]
    change failedSteps (StepEntry.allSteps (Happening.entries path
      (Instruction.task name body false).happenings)) = _
    rw [hsteps, failedSteps_cons, hbody, dieCall?]
    cases firstDieCall? body with
    | none => rfl
    | some d => rfl

theorem failedSteps_executed (path : List String) : ∀ is : List Instruction,
    failedSteps (StepEntry.allSteps (Happening.entries path (executed is)))
      = (firstDieCall? is).elim [] DieCall.tasks
  | [] => rfl
  | i :: is => by
    have hfirst := failedSteps_happenings path i
    have hrest := failedSteps_executed path is
    rw [executed, firstDieCall?, Happening.entries_append, StepEntry.allSteps_append,
      failedSteps_append, hfirst]
    cases i.dieCall? with
    | none => exact hrest
    | some d => simp [Happening.entries, StepEntry.allSteps, failedSteps]
end

end Instruction

/-! ### The root step -/

namespace Log

/-- The tree of a log at its root step. -/
theorem tree_withStatus (name : String) (status : StepStatus) (hs : List Happening) :
    (((opened name).after hs).withStatus status).tree
      = ⟨name, status, Happening.entries [name] hs⟩ :=
  rfl

end Log

namespace Instruction

/-- The root step of a new log is closed after a structured script, by the script itself
    when it dies. -/
theorem closeRoot_runScript {script : List Instruction} (h : allStructured script = true)
    (name : String) :
    (runScript name script).log.closeRoot
      = (none, ((Log.opened name).after (executed script)).withStatus
          (DieCall.ending (firstDieCall? script)).closing.status) := by
  rw [(runScript_eq h name).2]
  cases firstDieCall? script with
  | none => exact Log.closeRoot_after name (executed script)
  | some d => exact Log.closeRoot_failOpenSteps name (executed script)

/-- A script whose failures are all raised by `die` returns exactly when it executes none.
    The first `die` fails it with its own error, which no closing adds to; its record is the
    last one, behind those of everything executed before it.  The root step can always be
    closed then: no step is left open, and the failed steps are those around the `die`. -/
theorem structured_run {script : List Instruction} (h : allStructured script = true)
    (name : String) :
    ((runScript name script).result = .ok () ↔ firstDieCall? script = none)
      ∧ (runScript name script).log.records = Happening.allRecords [name] (executed script)
      ∧ (∀ d, firstDieCall? script = some d →
          (runScript name script).result = .error d.failure ∧ d.failure.suppressed = []
          ∧ ∃ before, (runScript name script).log.records = before ++ [d.record [name]])
      ∧ (runScript name script).log.closeRoot.1 = none
      ∧ (runScript name script).log.finish.tree
          = ⟨name, (DieCall.ending (firstDieCall? script)).closing.status,
              Happening.entries [name] (executed script)⟩
      ∧ (∀ s ∈ (runScript name script).log.finish.tree.steps, s.2 ≠ .inProgress)
      ∧ failedSteps (runScript name script).log.finish.tree.steps
          = (firstDieCall? script).elim [] fun d => name :: d.tasks := by
  obtain ⟨hresult, hlog⟩ := runScript_eq h name
  have hclose := closeRoot_runScript h name
  have hrecords : (runScript name script).log.records
      = Happening.allRecords [name] (executed script) := by
    rw [hlog, Log.records_settle]
    rfl
  have htree : (runScript name script).log.finish.tree
      = ⟨name, (DieCall.ending (firstDieCall? script)).closing.status,
          Happening.entries [name] (executed script)⟩ := by
    rw [Log.finish, hclose, Log.tree_withStatus]
  refine ⟨?_, hrecords, ?_, by rw [hclose], htree, ?_, ?_⟩
  · rw [hresult]
    cases firstDieCall? script with
    | none => exact iff_of_true rfl rfl
    | some d => exact iff_of_false (fun hok => nomatch hok) (fun hnone => nomatch hnone)
  · intro d hd
    rw [hresult, hd, hrecords]
    exact ⟨rfl, rfl, allRecords_executed [name] script d hd⟩
  · rw [htree, StepNode.steps]
    exact List.forall_mem_cons.mpr
      ⟨Closing.status_ne_inProgress _, Happening.closed_of_mem_allSteps [name] _⟩
  · rw [htree, StepNode.steps, failedSteps_cons, failedSteps_executed]
    cases firstDieCall? script with
    | none => rfl
    | some d => rfl

def dyingScript : List Instruction :=
  [.note "start", .task "Extraction" [.warn "odd name" none] false,
    .task "Validation" [.task "a.B" [.err "no method" none,
      .die "not supported" (some "a.B") false, .note "unreached"] false] false,
    .note "unreached"]

/-- Only the tasks around the `die` fail, and nothing behind it is recorded. -/
theorem structured_run_of_dyingScript :
    ∃ before, (runScript "KtorGen" dyingScript).result
        = .error (.dying "not supported" (some "a.B"))
      ∧ (runScript "KtorGen" dyingScript).log.records = before
        ++ [⟨.error, "not supported", some "a.B", ["KtorGen", "Validation", "a.B"]⟩]
      ∧ before.map Diagnostic.message = ["start", "odd name", "no method"]
      ∧ (runScript "KtorGen" dyingScript).log.closeRoot.1 = none
      ∧ failedSteps (runScript "KtorGen" dyingScript).log.finish.tree.steps
          = ["KtorGen", "Validation", "a.B"] := by
  have hstructured : allStructured dyingScript = true := by
    decide
  have hcall : firstDieCall? dyingScript
      = some ⟨"not supported", some "a.B", ["Validation", "a.B"]⟩ := by
    decide
  obtain ⟨-, hrecords, hdies, hclose, -, -, hfailed⟩ := structured_run hstructured "KtorGen"
  obtain ⟨hresult, -, before, hbefore⟩ := hdies _ hcall
  have htrim : trim "not supported" = "not supported" := by
    decide +kernel
  have hmessages : (Happening.allRecords ["KtorGen"] (executed dyingScript)).map
      Diagnostic.message = ["start", "odd name", "no method"] ++ ["not supported"] := by
    decide +kernel
  rw [DieCall.failure, htrim] at hresult
  rw [DieCall.record, htrim] at hbefore
  rw [← hrecords, hbefore, List.map_append] at hmessages
  rw [hcall] at hfailed
  exact ⟨before, hresult, hbefore, List.append_inj_left' hmessages rfl, hclose, hfailed⟩

end Instruction

end ClientGen
