/-
  ClientGen/Proofs/Diagnostics/Conduct.lean
  =========================================
  **Work inside a step does the same in every log.**

  Work reads a log only to count the errors that it raised itself.  What it does can
  therefore be told without a log: how it ends, and what it adds to the step that is
  current.  `Does w c` says that the work `w` conducts itself as `c` in every log, and
  one rule for each operation composes it:

    * `Does.pure`, `Does.bind`      — sequences;
    * `Does.raise`, `Does.throw`    — messages and failures;
    * `Does.die`                    — a failure that closes every open step;
    * `Does.task`                   — a step of its own;
    * `Does.unlessErrors`           — work that goes on unless errors were raised.

  What a failure found open is the only thing that reaches beyond the current step.
-/
import ClientGen.Diagnostics.Log
import Mathlib.Tactic.Choose

namespace ClientGen

open ClientGen.Text

/-! ### How work ends -/

/-- How a step is closed. -/
inductive Closing where
  | completed
  | failed
deriving DecidableEq, Repr

def Closing.status : Closing → StepStatus
  | .completed => .completed
  | .failed => .failed

theorem Closing.status_ne_inProgress (c : Closing) : c.status ≠ .inProgress := by
  cases c with
  | completed => decide
  | failed => decide

/-- The end of work inside a step. -/
inductive Ending (α : Type) where
  | returns (a : α)
  /-- A failure that leaves the steps around it open. -/
  | fails (f : Fatal)
  /-- A failure that has closed every open step. -/
  | dies (f : Fatal)

namespace Ending

variable {α : Type}

/-- The result that the work hands out. -/
def result : Ending α → Except Fatal α
  | .returns a => .ok a
  | .fails f => .error f
  | .dies f => .error f

/-- What the end does to the open steps. -/
def settle (e : Ending α) (log : Log) : Log :=
  match e with
  | .dies _ => log.failOpenSteps
  | _ => log

/-- How a step around work that ends so is closed. -/
def closing : Ending α → Closing
  | .returns _ => .completed
  | .fails _ => .failed
  | .dies _ => .failed

theorem eq_returns_of_result {e : Ending α} {a : α} (h : e.result = .ok a) : e = .returns a := by
  cases e with
  | returns b => simp only [result, Except.ok.injEq] at h; rw [h]
  | fails f => cases h
  | dies f => cases h

end Ending

/-! ### What work adds to a step -/

/-- A message or a finished step, without the place where it happened. -/
inductive Happening where
  | message (severity : Severity) (text : String) (symbol : Option String)
  | step (name : String) (closing : Closing) (inner : List Happening)

namespace Happening

mutual
/-- The entry of a happening in the step at a path. -/
def entry (path : List String) : Happening → StepEntry
  | .message severity text symbol => .message ⟨severity, text, symbol, path⟩
  | .step name closing inner => .step ⟨name, closing.status, entries (path ++ [name]) inner⟩

def entries (path : List String) : List Happening → List StepEntry
  | [] => []
  | h :: hs => entry path h :: entries path hs
end

mutual
/-- The records of a happening in the step at a path, in raising order. -/
def records (path : List String) : Happening → List Diagnostic
  | .message severity text symbol => [⟨severity, text, symbol, path⟩]
  | .step name _ inner => allRecords (path ++ [name]) inner

def allRecords (path : List String) : List Happening → List Diagnostic
  | [] => []
  | h :: hs => records path h ++ allRecords path hs
end

mutual
/-- How many messages of a weight a happening holds. -/
def count (severity : Severity) : Happening → Nat
  | .message s _ _ => if s = severity then 1 else 0
  | .step _ _ inner => countAll severity inner

def countAll (severity : Severity) : List Happening → Nat
  | [] => 0
  | h :: hs => count severity h + countAll severity hs
end

theorem entries_append (path : List String) (hs hs' : List Happening) :
    entries path (hs ++ hs') = entries path hs ++ entries path hs' := by
  induction hs with
  | nil => rfl
  | cons h hs ih => simp only [List.cons_append, entries, ih]

theorem allRecords_append (path : List String) (hs hs' : List Happening) :
    allRecords path (hs ++ hs') = allRecords path hs ++ allRecords path hs' := by
  induction hs with
  | nil => rfl
  | cons h hs ih => simp only [List.cons_append, allRecords, ih, List.append_assoc]

/-- A message is recorded in the step where it happens. -/
theorem mem_allRecords {path : List String} {severity : Severity} {text : String}
    {symbol : Option String} {hs : List Happening} (h : .message severity text symbol ∈ hs) :
    ⟨severity, text, symbol, path⟩ ∈ allRecords path hs := by
  obtain ⟨front, back, rfl⟩ := List.append_of_mem h
  rw [allRecords_append]
  exact List.mem_append_right _ List.mem_cons_self

theorem countAll_append (severity : Severity) (hs hs' : List Happening) :
    countAll severity (hs ++ hs') = countAll severity hs + countAll severity hs' := by
  induction hs with
  | nil => simp [countAll]
  | cons h hs ih => simp only [List.cons_append, countAll, ih]; omega

end Happening

theorem StepEntry.countAll_append (severity : Severity) (es es' : List StepEntry) :
    StepEntry.countAll severity (es ++ es')
      = StepEntry.countAll severity es + StepEntry.countAll severity es' := by
  induction es with
  | nil => simp [StepEntry.countAll]
  | cons e es ih =>
    cases e with
    | message d => simp only [List.cons_append, StepEntry.countAll, ih]; omega
    | step s => simp only [List.cons_append, StepEntry.countAll, ih]; omega

/-- Entries hold as many messages as the happenings that they stand for. -/
theorem Happening.countAll_entries (severity : Severity) (path : List String)
    (hs : List Happening) :
    StepEntry.countAll severity (Happening.entries path hs) = Happening.countAll severity hs := by
  match hs with
  | [] => rfl
  | .message s text symbol :: hs =>
    simp only [Happening.entries, Happening.entry, StepEntry.countAll, Happening.countAll,
      Happening.count, countAll_entries severity path hs]
  | .step name closing inner :: hs =>
    simp only [Happening.entries, Happening.entry, StepEntry.countAll, StepNode.count,
      Happening.countAll, Happening.count, countAll_entries severity path hs,
      countAll_entries severity (path ++ [name]) inner]

/-- What happened inside a step is closed. -/
theorem Happening.filter_isOpen_entries (path : List String) (hs : List Happening) :
    (Happening.entries path hs).filter StepEntry.isOpen = [] := by
  induction hs with
  | nil => rfl
  | cons h hs ih =>
    have hclosed : (h.entry path).isOpen = false := by
      cases h with
      | message severity text symbol => rfl
      | step name closing inner => exact beq_eq_false_iff_ne.mpr closing.status_ne_inProgress
    rw [Happening.entries, List.filter_cons_of_neg (by simp [hclosed]), ih]

/-! ### Logs after happenings -/

namespace Log

/-- The log after happenings in its current step. -/
def after (log : Log) (hs : List Happening) : Log :=
  { log with
    records := log.records ++ Happening.allRecords log.path hs
    current := { log.current with
      entries := log.current.entries ++ Happening.entries log.path hs } }

@[simp] theorem after_nil (log : Log) : log.after [] = log := by
  obtain ⟨records, ⟨name, status, entries⟩, around⟩ := log
  simp [after, Happening.allRecords, Happening.entries]

theorem after_append (log : Log) (hs hs' : List Happening) :
    (log.after hs).after hs' = log.after (hs ++ hs') := by
  simp only [after, path, Happening.allRecords_append, Happening.entries_append,
    List.append_assoc]

theorem count_after (log : Log) (hs : List Happening) (severity : Severity) :
    (log.after hs).current.count severity
      = log.current.count severity + Happening.countAll severity hs := by
  obtain ⟨records, ⟨name, status, entries⟩, around⟩ := log
  simp only [after, StepNode.count, StepEntry.countAll_append, Happening.countAll_entries]

theorem push_eq_after (log : Log) (severity : Severity) (message : String)
    (symbol : Option String) :
    log.push severity message symbol
      = log.after [.message severity (trim message) symbol] := by
  simp only [push, after, StepNode.add, Happening.allRecords, Happening.records,
    Happening.entries, Happening.entry, List.append_nil]

/-- The current step with another status. -/
def withStatus (log : Log) (status : StepStatus) : Log :=
  { log with current := { log.current with status := status } }

/-- Nothing that happened in a step keeps it from being closed. -/
theorem close_after {log : Log} (hopen : log.current.status = .inProgress)
    (hempty : log.current.entries = []) (closing : Closing) (hs : List Happening) :
    (log.after hs).close closing.status
      = (none, (log.after hs).withStatus closing.status) := by
  have hinside : (log.after hs).current.closingDefect? = none := by
    simp [StepNode.closingDefect?, StepNode.openInside, after, hempty,
      Happening.filter_isOpen_entries]
  have hafter : (log.after hs).current.status = .inProgress := hopen
  rw [close, if_pos hafter, hinside]
  rfl

theorem close_step (log : Log) (name : String) (closing : Closing) (hs : List Happening) :
    ((log.enter name).after hs).close closing.status
      = (none, ((log.enter name).after hs).withStatus closing.status) :=
  close_after rfl rfl closing hs

/-- A step that is left becomes one entry of the step around it. -/
theorem leave_step (log : Log) (name : String) (closing : Closing) (hs : List Happening) :
    (((log.enter name).after hs).withStatus closing.status).leave
      = log.after [.step name closing hs] := by
  have hpath : (log.enter name).path = log.path ++ [name] := by
    simp [path, enter, StepNode.opened]
  simp only [after, hpath]
  simp only [withStatus, leave, enter, StepNode.opened, StepNode.add, Happening.allRecords,
    Happening.records, Happening.entries, Happening.entry, List.append_nil, List.nil_append]

/-- The root step is closed when everything in it is. -/
theorem closeRoot_after (name : String) (hs : List Happening) :
    ((opened name).after hs).closeRoot
      = (none, ((opened name).after hs).withStatus .completed) := by
  have hopen : ((opened name).after hs).isFinished = false := rfl
  rw [closeRoot, hopen, if_neg (by decide)]
  exact close_after rfl rfl .completed hs

/-- A root step that failed stays as it is. -/
theorem closeRoot_failOpenSteps (name : String) (hs : List Happening) :
    ((opened name).after hs).failOpenSteps.closeRoot
      = (none, ((opened name).after hs).withStatus .failed) :=
  rfl

theorem failIfOpen_add (s : StepNode) (e : StepEntry) :
    (s.add e).failIfOpen = s.failIfOpen.add e := by
  by_cases h : s.status = .inProgress
  · simp [StepNode.failIfOpen, StepNode.add, h]
  · simp [StepNode.failIfOpen, StepNode.add, h]

theorem leave_failed_step (log : Log) (name : String) (hs : List Happening) :
    ((log.enter name).after hs).failOpenSteps.leave
      = (log.after [.step name .failed hs]).failOpenSteps := by
  have hstep := leave_step log name .failed hs
  have hfailed : ((log.enter name).after hs).failOpenSteps.leave
      = (((log.enter name).after hs).withStatus Closing.failed.status).leave.failOpenSteps := by
    simp only [failOpenSteps, leave, after, enter, withStatus, List.map_cons, failIfOpen_add]
    rfl
  rw [hfailed, hstep]

end Log

/-! ### Conduct -/

/-- What work does, whatever the log it is done in. -/
structure Conduct (α : Type) where
  ending : Ending α
  /-- What is added to the current step. -/
  happenings : List Happening

namespace Conduct

variable {α β : Type}

/-- Nothing happens. -/
def pure (a : α) : Conduct α := ⟨.returns a, []⟩

def raise (severity : Severity) (message : String) (symbol : Option String) : Conduct Unit :=
  ⟨.returns (), [.message severity (trim message) symbol]⟩

def throw (f : Fatal) : Conduct α := ⟨.fails f, []⟩

/-- An error is raised and every open step is closed. -/
def die (message : String) (symbol : Option String) : Conduct α :=
  ⟨.dies (.dying (trim message) symbol), [.message .error (trim message) symbol]⟩

def bind (c : Conduct α) (k : α → Conduct β) : Conduct β :=
  match c.ending with
  | .returns a => ⟨(k a).ending, c.happenings ++ (k a).happenings⟩
  | .fails f => ⟨.fails f, c.happenings⟩
  | .dies f => ⟨.dies f, c.happenings⟩

/-- A step around a conduct. -/
def task (name : String) (c : Conduct α) : Conduct α :=
  ⟨c.ending, [.step name c.ending.closing c.happenings]⟩

end Conduct

/-- The work conducts itself so in every log. -/
def Does {α : Type} (w : StepM α) (c : Conduct α) : Prop :=
  ∀ log, w.run.run log = (c.ending.result, c.ending.settle (log.after c.happenings))

/-! ### Rules -/

theorem StepM.run_bind {α β : Type} (w : StepM α) (k : α → StepM β) (log : Log) :
    (w >>= k).run.run log
      = match w.run.run log with
        | (.ok a, log) => (k a).run.run log
        | (.error f, log) => (.error f, log) := by
  change ExceptT.bindCont k (w log).1 (w log).2 = _
  cases h : w log with
  | mk r log' =>
    have hrun : w.run.run log = (r, log') := h
    rw [hrun]
    cases r with
    | ok a => rfl
    | error f => rfl

/-- A result that passes a test is no failure. -/
theorem ok_of_any {α : Type} {r : Except Fatal α} {p : α → Prop} [DecidablePred p]
    (h : (r.toOption.any fun a => p a) = true) : ∃ a, r = .ok a ∧ p a := by
  cases r with
  | error f => cases h
  | ok a => exact ⟨a, rfl, of_decide_eq_true h⟩

theorem StepM.exists_ok {α : Type} (w : StepM α) (log : Log)
    (h : (w.run.run log).1.toOption.isSome = true) :
    ∃ a log', w.run.run log = (.ok a, log') := by
  cases hrun : w.run.run log with
  | mk result log' =>
    rw [hrun] at h
    cases result with
    | error f => cases h
    | ok a => exact ⟨a, log', rfl⟩

theorem StepM.ok_of_bind {α β : Type} {w : StepM α} {k : α → StepM β} {log log' : Log} {b : β}
    (h : (w >>= k).run.run log = (.ok b, log')) :
    ∃ a between, w.run.run log = (.ok a, between) ∧ (k a).run.run between = (.ok b, log') := by
  rw [StepM.run_bind] at h
  cases hw : w.run.run log with
  | mk r between =>
    rw [hw] at h
    cases r with
    | ok a => exact ⟨a, between, rfl, h⟩
    | error f => cases h

theorem StepM.ok_of_pure {α : Type} {a b : α} {log log' : Log}
    (h : (pure a : StepM α).run.run log = (.ok b, log')) : a = b := by
  cases h
  rfl

theorem StepM.ok_of_ofExcept {α : Type} {r : Except Fatal α} {log log' : Log} {a : α}
    (h : (MonadExcept.ofExcept r : StepM α).run.run log = (.ok a, log')) : r = .ok a := by
  cases r with
  | error f => cases h
  | ok b =>
    cases h
    rfl

theorem StepM.ok_of_task {α : Type} {w : StepM α} {name : String} {log log' : Log} {a : α}
    (h : (StepM.task name w).run.run log = (.ok a, log')) :
    ∃ inner, w.run.run (log.enter name) = (.ok a, inner) := by
  change StepM.exit (w.run.run (log.enter name)).1 (w.run.run (log.enter name)).2 = _ at h
  cases hw : w.run.run (log.enter name) with
  | mk r inner =>
    rw [hw] at h
    unfold StepM.exit at h
    cases r with
    | ok b =>
      cases hclose : (inner.close (StepM.closingStatus (.ok b : Except Fatal α))).1 with
      | none => simp only [hclose] at h; cases h; exact ⟨inner, rfl⟩
      | some f => simp only [hclose] at h; cases h
    | error f =>
      cases hclose : (inner.close (StepM.closingStatus (.error f : Except Fatal α))).1 with
      | none => simp only [hclose] at h; cases h
      | some f => simp only [hclose] at h; cases h

namespace Does

variable {α β : Type} {w : StepM α} {c : Conduct α}

theorem pure (a : α) : Does (pure a : StepM α) (.pure a) := by
  intro log
  simp only [Conduct.pure, Log.after_nil, Ending.result, Ending.settle]
  rfl

theorem throw (f : Fatal) : Does (throw f : StepM α) (.throw f) := by
  intro log
  simp only [Conduct.throw, Log.after_nil, Ending.result, Ending.settle]
  rfl

theorem raise (severity : Severity) (message : String) (symbol : Option String) :
    Does (StepM.raise severity message symbol) (.raise severity message symbol) := by
  intro log
  simp only [Conduct.raise, Ending.result, Ending.settle, ← Log.push_eq_after]
  rfl

theorem die (message : String) (symbol : Option String) :
    Does (StepM.die message symbol : StepM α) (.die message symbol) := by
  intro log
  simp only [Conduct.die, Ending.result, Ending.settle, ← Log.push_eq_after]
  rfl

theorem followed {k : α → StepM β} {d d' : Conduct β} {a : α} {hs : List Happening}
    (hw : Does w ⟨.returns a, hs⟩) (hk : Does (k a) d)
    (hd : d' = ⟨d.ending, hs ++ d.happenings⟩) : Does (w >>= k) d' := by
  intro log
  have happend : (log.after hs).after d.happenings = log.after (hs ++ d.happenings) :=
    Log.after_append log hs d.happenings
  rw [StepM.run_bind, hw log, hd]
  exact (hk (log.after hs)).trans (by rw [happend])

/-- What comes after work happens behind it; a failure ends both. -/
theorem bind {k : α → StepM β} {d : α → Conduct β} (hw : Does w c)
    (hk : ∀ a, Does (k a) (d a)) : Does (w >>= k) (c.bind d) := by
  obtain ⟨ending, happenings⟩ := c
  cases ending with
  | returns a => exact hw.followed (hk a) rfl
  | fails f =>
    intro log
    rw [StepM.run_bind, hw log]
    rfl
  | dies f =>
    intro log
    rw [StepM.run_bind, hw log]
    rfl

theorem failed {k : α → StepM β} {f : Fatal} {hs : List Happening} (hw : Does w ⟨.fails f, hs⟩) :
    Does (w >>= k) ⟨.fails f, hs⟩ := by
  intro log
  rw [StepM.run_bind, hw log]
  rfl

theorem die_bind (message : String) (symbol : Option String) (k : α → StepM β) :
    Does ((StepM.die message symbol : StepM α) >>= k) (.die message symbol) := by
  intro log
  rw [StepM.run_bind, die (α := α) message symbol log]
  rfl

/-- A step is closed by the end of its work, and what happened in it becomes one entry. -/
theorem task (name : String) (hw : Does w c) : Does (StepM.task name w) (c.task name) := by
  intro log
  obtain ⟨ending, happenings⟩ := c
  have hrun : (StepM.task name w).run.run log
      = StepM.exit ending.result (ending.settle ((log.enter name).after happenings)) := by
    change StepM.exit (w.run.run (log.enter name)).1 (w.run.run (log.enter name)).2 = _
    rw [hw (log.enter name)]
  rw [hrun]
  cases ending with
  | returns a =>
    have hclose := Log.close_step log name .completed happenings
    simp only [StepM.exit, Ending.result, Ending.settle]
    rw [show StepM.closingStatus (.ok a : Except Fatal α) = Closing.completed.status from rfl,
      hclose]
    exact congrArg (Prod.mk _) (Log.leave_step log name .completed happenings)
  | fails f =>
    have hclose := Log.close_step log name .failed happenings
    simp only [StepM.exit, Ending.result, Ending.settle]
    rw [show StepM.closingStatus (.error f : Except Fatal α) = Closing.failed.status from rfl,
      hclose]
    exact congrArg (Prod.mk _) (Log.leave_step log name .failed happenings)
  | dies f => exact congrArg (Prod.mk _) (Log.leave_failed_step log name happenings)

/-- Work that goes on as `k` when `w` raised errors, and as `k'` when it raised none. -/
theorem unlessErrors {k k' : α → StepM β} {d d' : α → Conduct β} (hw : Does w c)
    (hk : ∀ a, Does (k a) (d a)) (hk' : ∀ a, Does (k' a) (d' a)) :
    Does (do
        let before ← StepM.errorCount
        let a ← w
        let now ← StepM.errorCount
        if before < now then k a else k' a)
      (c.bind fun a => if 0 < Happening.countAll .error c.happenings then d a else d' a) := by
  intro log
  have hcount : ∀ log : Log,
      StepM.errorCount.run.run log = (.ok (log.current.count .error), log) := fun _ => rfl
  obtain ⟨ending, happenings⟩ := c
  rw [StepM.run_bind, hcount]
  simp only
  rw [StepM.run_bind, hw log]
  cases ending with
  | returns a =>
    simp only [Ending.result, Ending.settle, Conduct.bind]
    rw [StepM.run_bind, hcount]
    simp only [Log.count_after]
    have happend := Log.after_append log happenings
    by_cases herrors : 0 < Happening.countAll .error happenings
    · rw [if_pos (by omega), if_pos herrors]
      exact (hk a (log.after happenings)).trans (by rw [happend]; rfl)
    · rw [if_neg (by omega), if_neg herrors]
      exact (hk' a (log.after happenings)).trans (by rw [happend]; rfl)
  | fails f => rfl
  | dies f => rfl

theorem result_eq (hw : Does w c) (log : Log) : (w.run.run log).1 = c.ending.result := by
  rw [hw log]

theorem run_eq_ok (hw : Does w c) {a : α} (h : c.ending = .returns a) (log : Log) :
    ∃ log', w.run.run log = (.ok a, log') := by
  refine ⟨log.after c.happenings, ?_⟩
  rw [hw log, h]
  rfl

theorem ending_eq_returns (hw : Does w c) {log log' : Log} {a : α}
    (hrun : w.run.run log = (.ok a, log')) : c.ending = .returns a := by
  apply Ending.eq_returns_of_result
  rw [← hw.result_eq log, hrun]

end Does

/-- The work does the same in every log. -/
def Steady {α : Type} (w : StepM α) : Prop :=
  ∃ c, Does w c

namespace Steady

variable {α β : Type} {w : StepM α}

theorem of (c : Conduct α) (h : Does w c) : Steady w :=
  ⟨c, h⟩

theorem bind {k : α → StepM β} (hw : Steady w) (hk : ∀ a, Steady (k a)) : Steady (w >>= k) := by
  obtain ⟨c, hc⟩ := hw
  choose d hd using hk
  exact ⟨c.bind d, hc.bind hd⟩

theorem task (name : String) (hw : Steady w) : Steady (StepM.task name w) := by
  obtain ⟨c, hc⟩ := hw
  exact ⟨c.task name, hc.task name⟩

theorem result_eq (hw : Steady w) (log log' : Log) :
    (w.run.run log).1 = (w.run.run log').1 := by
  obtain ⟨c, hc⟩ := hw
  rw [hc.result_eq log, hc.result_eq log']

end Steady

/-! ### Closing the root step -/

/-- What work makes of a log: happenings in the current step, behind which every open step may
    have failed. -/
def Log.Becomes (log log' : Log) : Prop :=
  ∃ hs, log' = log.after hs ∨ log' = (log.after hs).failOpenSteps

theorem Steady.becomes {α : Type} {w : StepM α} (hw : Steady w) (log : Log) :
    log.Becomes (w.run.run log).2 := by
  obtain ⟨⟨ending, hs⟩, hw⟩ := hw
  refine ⟨hs, ?_⟩
  rw [hw log]
  cases ending with
  | returns a => exact .inl rfl
  | fails f => exact .inl rfl
  | dies f => exact .inr rfl

/-- Work that returns leaves the steps around it open. -/
theorem Steady.after_of_ok {α : Type} {w : StepM α} (hw : Steady w) {log log' : Log} {a : α}
    (hrun : w.run.run log = (.ok a, log')) : ∃ hs, log' = log.after hs := by
  obtain ⟨c, hw⟩ := hw
  have hending := hw.ending_eq_returns hrun
  refine ⟨c.happenings, ?_⟩
  rw [hw log, hending] at hrun
  exact (Prod.mk.inj hrun).2.symm

theorem Log.Becomes.behind {log log' : Log} {hs : List Happening}
    (h : (log.after hs).Becomes log') : log.Becomes log' := by
  obtain ⟨hs', h⟩ := h
  rw [Log.after_append] at h
  exact ⟨hs ++ hs', h⟩

/-- Whatever work makes of a new log, its root step can be closed. -/
theorem Log.Becomes.closeRoot {name : String} {log : Log} (h : (Log.opened name).Becomes log) :
    log.closeRoot.1 = none := by
  obtain ⟨hs, rfl | rfl⟩ := h
  · rw [Log.closeRoot_after]
  · rw [Log.closeRoot_failOpenSteps]

/-! ### Records -/

theorem Log.records_settle {α : Type} (e : Ending α) (log : Log) :
    (e.settle log).records = log.records := by
  cases e with
  | returns a => rfl
  | fails f => rfl
  | dies f => rfl

theorem Does.records {α : Type} {w : StepM α} {c : Conduct α} (hw : Does w c) (log : Log) :
    (w.run.run log).2.records = log.records ++ Happening.allRecords log.path c.happenings := by
  rw [hw log, Log.records_settle]
  rfl

/-- No record is lost by what comes later. -/
theorem Steady.records {α : Type} {w : StepM α} (hw : Steady w) {log log' : Log}
    {result : Except Fatal α} (hrun : w.run.run log = (result, log')) :
    log.records ⊆ log'.records := by
  obtain ⟨c, hc⟩ := hw
  have hrecords := hc.records log
  rw [hrun] at hrecords
  rw [hrecords]
  exact List.subset_append_left _ _

theorem Log.records_leave (log : Log) : log.leave.records = log.records := by
  unfold Log.leave
  cases log.around with
  | nil => rfl
  | cons parent rest => rfl

theorem Log.records_close (log : Log) (status : StepStatus) :
    (log.close status).2.records = log.records := by
  unfold Log.close
  split
  · rfl
  · split
    · rfl
    · rfl

/-- A step is closed without a record of its own. -/
theorem StepM.records_task {α : Type} (name : String) (w : StepM α) (log : Log) :
    ((StepM.task name w).run.run log).2.records = (w.run.run (log.enter name)).2.records := by
  change (StepM.exit (w.run.run (log.enter name)).1 (w.run.run (log.enter name)).2).2.records = _
  cases w.run.run (log.enter name) with
  | mk r inner =>
    simp only [StepM.exit, Log.records_leave, Log.records_close]

theorem StepM.ok_of_task_records {α : Type} {w : StepM α} {name : String} {log log' : Log} {a : α}
    (h : (StepM.task name w).run.run log = (.ok a, log')) :
    ∃ inner, inner.records = log'.records ∧ w.run.run (log.enter name) = (.ok a, inner) := by
  obtain ⟨inner, hw⟩ := StepM.ok_of_task h
  have hrecords := StepM.records_task name w log
  rw [h, hw] at hrecords
  exact ⟨inner, hrecords.symm, hw⟩

theorem Log.records_finish (log : Log) : log.finish.records = log.records := by
  unfold Log.finish Log.closeRoot
  split
  · rfl
  · exact Log.records_close log .completed

/-! ### Work that returns and work that fails -/

/-- The work returns in every log. -/
def Returns {α : Type} (w : StepM α) : Prop :=
  ∃ a hs, Does w ⟨.returns a, hs⟩

/-- The work returns this value in every log. -/
def Yields {α : Type} (w : StepM α) (a : α) : Prop :=
  ∃ hs, Does w ⟨.returns a, hs⟩

/-- The work fails in every log, in the same way. -/
def Fails {α : Type} (w : StepM α) (f : Fatal) : Prop :=
  ∃ hs, Does w ⟨.fails f, hs⟩

section Outcome

variable {α β : Type} {w : StepM α} {k : α → StepM β} {f : Fatal}

theorem Returns.pure (a : α) : Returns (pure a : StepM α) :=
  ⟨a, [], Does.pure a⟩

theorem Returns.bind (hw : Returns w) (hk : ∀ a, Returns (k a)) : Returns (w >>= k) := by
  obtain ⟨a, hs, hw⟩ := hw
  obtain ⟨b, hs', hk⟩ := hk a
  exact ⟨b, hs ++ hs', hw.followed hk rfl⟩

theorem Returns.task (name : String) (hw : Returns w) : Returns (StepM.task name w) := by
  obtain ⟨a, hs, hw⟩ := hw
  exact ⟨a, _, hw.task name⟩

theorem Yields.pure (a : α) : Yields (pure a : StepM α) a :=
  ⟨[], Does.pure a⟩

theorem Yields.bind {a : α} {b : β} (hw : Yields w a) (hk : Yields (k a) b) :
    Yields (w >>= k) b := by
  obtain ⟨hs, hw⟩ := hw
  obtain ⟨hs', hk⟩ := hk
  exact ⟨hs ++ hs', hw.followed hk rfl⟩

theorem Yields.task {a : α} (name : String) (hw : Yields w a) : Yields (StepM.task name w) a := by
  obtain ⟨hs, hw⟩ := hw
  exact ⟨_, hw.task name⟩

theorem Yields.run {a : α} (hw : Yields w a) (log : Log) :
    ∃ log', w.run.run log = (.ok a, log') := by
  obtain ⟨hs, hw⟩ := hw
  exact hw.run_eq_ok rfl log

/-- Steady work that once returned a value returns it in every log. -/
theorem Steady.yields {a : α} {log log' : Log} (hw : Steady w)
    (hrun : w.run.run log = (.ok a, log')) : Yields w a := by
  obtain ⟨⟨ending, hs⟩, hc⟩ := hw
  have hending : ending = .returns a := hc.ending_eq_returns hrun
  rw [hending] at hc
  exact ⟨hs, hc⟩

theorem Fails.bind (hw : Fails w f) : Fails (w >>= k) f := by
  obtain ⟨hs, hw⟩ := hw
  exact ⟨hs, hw.failed⟩

theorem Fails.after (hw : Returns w) (hk : ∀ a, Fails (k a) f) : Fails (w >>= k) f := by
  obtain ⟨a, hs, hw⟩ := hw
  obtain ⟨hs', hk⟩ := hk a
  exact ⟨hs ++ hs', hw.followed hk rfl⟩

theorem Fails.task (name : String) (hw : Fails w f) : Fails (StepM.task name w) f := by
  obtain ⟨hs, hw⟩ := hw
  exact ⟨_, hw.task name⟩

theorem Returns.steady (hw : Returns w) : Steady w := by
  obtain ⟨a, hs, hw⟩ := hw
  exact ⟨_, hw⟩

theorem Fails.steady (hw : Fails w f) : Steady w := by
  obtain ⟨hs, hw⟩ := hw
  exact ⟨_, hw⟩

theorem Returns.result (hw : Returns w) (log : Log) : ∃ a, (w.run.run log).1 = .ok a := by
  obtain ⟨a, hs, hw⟩ := hw
  exact ⟨a, hw.result_eq log⟩

theorem Fails.result (hw : Fails w f) (log : Log) : (w.run.run log).1 = .error f := by
  obtain ⟨hs, hw⟩ := hw
  exact hw.result_eq log

end Outcome

end ClientGen
