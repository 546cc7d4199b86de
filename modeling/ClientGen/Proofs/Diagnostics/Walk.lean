/-
  ClientGen/Proofs/Diagnostics/Walk.lean
  ======================================
  **The step tree and the list of records tell the same.**

  A log keeps every record twice, in the list and in the tree.  Each operation on a log adds
  the same record at the end of the list and of a depth-first walk of the tree, or none to
  either; so the walk meets the list in every log that can be built (`Built.walk_tree`).  A
  step of the tree is met as one segment of the walk (`Occurs.walk`), which the counts of
  the step count (`count_eq_countP`).  Every log of a script can be built, and its list holds
  what the script raised (`runScript_leads`).
-/
import ClientGen.Diagnostics.Script
import ClientGen.Proofs.Diagnostics.Conduct

namespace ClientGen

open ClientGen.Text

/-! ### Walks -/

mutual
/-- The records that a walk of a step meets, each with the names of the steps from the root
    to the one that holds it; the path is that of the steps around. -/
def StepNode.walk (path : List String) : StepNode → List (List String × Diagnostic)
  | ⟨name, _, entries⟩ => StepEntry.walkAll (path ++ [name]) entries

def StepEntry.walkAll (path : List String) : List StepEntry → List (List String × Diagnostic)
  | [] => []
  | .message d :: es => (path, d) :: StepEntry.walkAll path es
  | .step s :: es => s.walk path ++ StepEntry.walkAll path es
end

/-- The record with the path that it names itself. -/
def Diagnostic.located (d : Diagnostic) : List String × Diagnostic :=
  (d.path, d)

theorem StepEntry.walkAll_append (path : List String) (es es' : List StepEntry) :
    StepEntry.walkAll path (es ++ es')
      = StepEntry.walkAll path es ++ StepEntry.walkAll path es' := by
  induction es with
  | nil => rfl
  | cons e es ih =>
    cases e with
    | message d => simp only [List.cons_append, StepEntry.walkAll, ih]
    | step s => simp only [List.cons_append, StepEntry.walkAll, ih, List.append_assoc]

namespace StepNode

theorem walk_eq (path : List String) (s : StepNode) :
    s.walk path = StepEntry.walkAll (path ++ [s.name]) s.entries := by
  cases s with
  | mk name status entries => rw [walk]

theorem walk_add_message (path : List String) (s : StepNode) (d : Diagnostic) :
    (s.add (.message d)).walk path = s.walk path ++ [(path ++ [s.name], d)] := by
  simp only [walk_eq, add, StepEntry.walkAll_append, StepEntry.walkAll]

theorem walk_add_step (path : List String) (s inner : StepNode) :
    (s.add (.step inner)).walk path = s.walk path ++ inner.walk (path ++ [s.name]) := by
  simp only [walk_eq, add, StepEntry.walkAll_append, StepEntry.walkAll, List.append_nil]

theorem walk_failIfOpen (path : List String) (s : StepNode) :
    s.failIfOpen.walk path = s.walk path := by
  unfold failIfOpen
  split
  · rw [walk_eq, walk_eq]
  · rfl

theorem name_failIfOpen (s : StepNode) : s.failIfOpen.name = s.name := by
  unfold failIfOpen
  split
  · rfl
  · rfl

end StepNode

mutual
/-- A step counts the records of its walk. -/
theorem StepNode.count_eq_countP (severity : Severity) (path : List String) : ∀ s : StepNode,
    s.count severity = (s.walk path).countP fun p => p.2.severity == severity
  | ⟨name, _, entries⟩ => StepEntry.countAll_eq_countP severity (path ++ [name]) entries

theorem StepEntry.countAll_eq_countP (severity : Severity) (path : List String) :
    ∀ es : List StepEntry,
    StepEntry.countAll severity es
      = (StepEntry.walkAll path es).countP fun p => p.2.severity == severity
  | [] => rfl
  | .message d :: es => by
    rw [StepEntry.countAll, StepEntry.walkAll, List.countP_cons,
      StepEntry.countAll_eq_countP severity path es, Nat.add_comm]
    simp only [beq_iff_eq]
  | .step s :: es => by
    rw [StepEntry.countAll, StepEntry.walkAll, List.countP_append,
      StepNode.count_eq_countP severity path s, StepEntry.countAll_eq_countP severity path es]
end

/-! ### Places in a tree -/

/-- A step in the tree of a root, inside steps with the names of a path. -/
inductive StepNode.Occurs (root : StepNode) : List String → StepNode → Prop
  | root : Occurs root [] root
  | inner {path : List String} {s t : StepNode} (h : Occurs root path s)
      (ht : .step t ∈ s.entries) : Occurs root (path ++ [s.name]) t

/-- The walk of a tree meets the records of one of its steps in one go. -/
theorem StepNode.Occurs.walk {root s : StepNode} {path : List String} (h : root.Occurs path s) :
    ∃ front back, root.walk [] = front ++ s.walk path ++ back := by
  induction h with
  | root => exact ⟨[], [], by simp⟩
  | @inner path s t _ ht ih =>
    obtain ⟨front, back, hwalk⟩ := ih
    -- The entries around `t` are met around its records.
    obtain ⟨before, after, hentries⟩ := List.append_of_mem ht
    refine ⟨front ++ StepEntry.walkAll (path ++ [s.name]) before,
      StepEntry.walkAll (path ++ [s.name]) after ++ back, ?_⟩
    rw [hwalk, s.walk_eq, hentries, StepEntry.walkAll_append, StepEntry.walkAll]
    simp only [List.append_assoc]

/-! ### The walk of a log -/

namespace Log

/-- The names of the steps around the current one, from the root. -/
def outside (log : Log) : List String :=
  (log.around.map StepNode.name).reverse

/-- What the walk of the tree meets before it comes to the steps inside those around. -/
def metBefore : List StepNode → List (List String × Diagnostic)
  | [] => []
  | s :: around => metBefore around ++ s.walk (around.map StepNode.name).reverse

theorem walk_foldl_add (around : List StepNode) (current : StepNode) :
    (around.foldl (fun inner parent => parent.add (.step inner)) current).walk []
      = metBefore around ++ current.walk (around.map StepNode.name).reverse := by
  induction around generalizing current with
  | nil => rfl
  | cons parent around ih =>
    rw [List.foldl_cons, ih, StepNode.walk_add_step, metBefore, List.map_cons,
      List.reverse_cons, List.append_assoc]

/-- The current step is the last one that the walk comes to. -/
theorem walk_tree (log : Log) :
    log.tree.walk [] = metBefore log.around ++ log.current.walk log.outside :=
  walk_foldl_add log.around log.current

theorem occurs_foldl_add (around : List StepNode) (current : StepNode) :
    (around.foldl (fun inner parent => parent.add (.step inner)) current).Occurs
      (around.map StepNode.name).reverse current := by
  induction around generalizing current with
  | nil => exact .root
  | cons parent around ih =>
    rw [List.foldl_cons, List.map_cons, List.reverse_cons]
    refine (ih (parent.add (.step current))).inner ?_
    exact List.mem_append_right _ List.mem_cons_self

theorem occurs_current (log : Log) : log.tree.Occurs log.outside log.current :=
  occurs_foldl_add log.around log.current

section Operations

variable (log : Log)

theorem walk_push (severity : Severity) (message : String) (symbol : Option String) :
    (log.push severity message symbol).tree.walk []
      = log.tree.walk [] ++ [(⟨severity, trim message, symbol, log.path⟩ :
          Diagnostic).located] := by
  rw [walk_tree, walk_tree, List.append_assoc]
  exact congrArg (metBefore log.around ++ ·) (StepNode.walk_add_message _ _ _)

theorem walk_enter (name : String) : (log.enter name).tree.walk [] = log.tree.walk [] := by
  rw [walk_tree, walk_tree]
  exact List.append_nil _

theorem tree_leave : log.leave.tree = log.tree := by
  unfold leave
  cases haround : log.around with
  | nil => rfl
  | cons parent rest => rw [tree, tree, haround, List.foldl_cons]

theorem walk_close (status : StepStatus) : (log.close status).2.tree.walk [] = log.tree.walk [] := by
  unfold close
  split
  · rw [walk_tree, walk_tree, StepNode.walk_eq, StepNode.walk_eq]
    rfl
  · split
    · rfl
    · rfl

theorem metBefore_failIfOpen (around : List StepNode) :
    metBefore (around.map StepNode.failIfOpen) = metBefore around := by
  induction around with
  | nil => rfl
  | cons s around ih =>
    have hnames : (around.map StepNode.failIfOpen).map StepNode.name
        = around.map StepNode.name := by
      rw [List.map_map]
      exact List.map_congr_left fun s _ => s.name_failIfOpen
    rw [List.map_cons, metBefore, metBefore, ih, hnames, StepNode.walk_failIfOpen]

theorem walk_failOpenSteps : log.failOpenSteps.tree.walk [] = log.tree.walk [] := by
  have houtside : log.failOpenSteps.outside = log.outside := by
    unfold outside failOpenSteps
    rw [List.map_map]
    exact congrArg List.reverse (List.map_congr_left fun s _ => s.name_failIfOpen)
  rw [walk_tree, walk_tree, houtside]
  change metBefore (log.around.map StepNode.failIfOpen) ++ log.current.failIfOpen.walk _ = _
  rw [metBefore_failIfOpen, StepNode.walk_failIfOpen]

end Operations

/-! ### Logs that can be built -/

/-- A new log, and what the operations of steps make of it. -/
inductive Built : Log → Prop
  | opened (name : String) : Built (opened name)
  | push {log : Log} (h : Built log) (severity : Severity) (message : String)
      (symbol : Option String) : Built (log.push severity message symbol)
  | enter {log : Log} (h : Built log) (name : String) : Built (log.enter name)
  | close {log : Log} (h : Built log) (status : StepStatus) : Built (log.close status).2
  | leave {log : Log} (h : Built log) : Built log.leave
  | failOpenSteps {log : Log} (h : Built log) : Built log.failOpenSteps

/-- A depth-first walk meets the records in raising order, in the steps that they name. -/
theorem Built.walk_tree {log : Log} (h : log.Built) :
    log.tree.walk [] = log.records.map Diagnostic.located := by
  induction h with
  | opened name => rfl
  | push _ severity message symbol ih =>
    rw [walk_push, ih, Log.push, List.map_append, List.map_singleton]
  | enter _ name ih => exact (walk_enter _ name).trans ih
  | close _ status ih => rw [walk_close, ih, records_close]
  | leave _ ih => rw [tree_leave, ih, records_leave]
  | failOpenSteps _ ih => exact (walk_failOpenSteps _).trans ih

theorem Built.finish {log : Log} (h : log.Built) : log.finish.Built := by
  unfold Log.finish closeRoot
  split
  · exact h
  · exact h.close _

end Log

/-! ### Runs of scripts -/

mutual
/-- The records of the messages that an instruction raises when it runs in a log. -/
def Instruction.raised : Instruction → Log → List Diagnostic
  | .note message, log => [⟨.step, trim message, none, log.path⟩]
  | .warn message symbol, log => [⟨.warning, trim message, symbol, log.path⟩]
  | .err message symbol, log => [⟨.error, trim message, symbol, log.path⟩]
  | .die message symbol _, log => [⟨.error, trim message, symbol, log.path⟩]
  | .fail _ _, _ => []
  | .task name body _, log => Instruction.raisedAll body (log.enter name)
  | .observe, _ => []

/-- The records of the messages that instructions raise until one fails. -/
def Instruction.raisedAll : List Instruction → Log → List Diagnostic
  | [], _ => []
  | i :: is, log => i.raised log ++ match (i.run log).result with
    | .ok _ => Instruction.raisedAll is (i.run log).log
    | .error _ => []
end

/-- A run leads from one log to another with a trace: what it raises is added to the list,
    and what is observed on the way are logs that can be built. -/
structure Leads (log : Log) (raised : List Diagnostic) (trace : List Trace) (log' : Log) :
    Prop where
  built : log'.Built
  records : log'.records = log.records ++ raised
  observed : ∀ t ∈ trace, (∃ f, t = .failed f) ∨ ∃ between : Log, between.Built
    ∧ between.records <+: log'.records ∧ t = between.observed

namespace Leads

variable {log log' log'' : Log} {raised raised' : List Diagnostic} {trace trace' : List Trace}

theorem quiet (h : log'.Built) (hrecords : log'.records = log.records ++ raised) :
    Leads log raised [] log' :=
  ⟨h, hrecords, fun _ ht => nomatch ht⟩

theorem refl (h : log.Built) : Leads log [] [] log :=
  .quiet h (List.append_nil _).symm

theorem trans (h : Leads log raised trace log') (h' : Leads log' raised' trace' log'') :
    Leads log (raised ++ raised') (trace ++ trace') log'' := by
  refine ⟨h'.built, ?_, fun t ht => ?_⟩
  · rw [h'.records, h.records, List.append_assoc]
  · rcases List.mem_append.mp ht with ht | ht
    · rcases h.observed t ht with hfailed | ⟨between, hbuilt, hrecords, hobserved⟩
      · exact .inl hfailed
      · refine .inr ⟨between, hbuilt, hrecords.trans ?_, hobserved⟩
        rw [h'.records]
        exact List.prefix_append _ _
    · exact h'.observed t ht

/-- A failure that is traced changes no log. -/
theorem settle (h : Leads log raised trace log') (swallow : Bool) (result : Except Fatal Unit) :
    Leads log raised (ClientGen.settle swallow trace log' result).trace
      (ClientGen.settle swallow trace log' result).log := by
  cases result with
  | ok a => exact h
  | error f =>
    have hfailed : Leads log' [] [.failed f] log' :=
      ⟨h.built, (List.append_nil _).symm, fun t ht => .inl ⟨f, List.mem_singleton.mp ht⟩⟩
    have htraced := h.trans hfailed
    rw [List.append_nil] at htraced
    exact htraced

/-- A task only opens and closes its own step around the run of its body. -/
theorem exit {name : String} {α : Type} (h : Leads (log.enter name) raised trace log')
    (result : Except Fatal α) : Leads log raised trace (StepM.exit result log').2 := by
  have hrecords : (StepM.exit result log').2.records = log'.records := by
    rw [StepM.exit, Log.records_leave, Log.records_close]
  refine ⟨(h.built.close _).leave, ?_, ?_⟩
  · rw [hrecords]
    exact h.records
  · rw [hrecords]
    exact h.observed

end Leads

mutual
theorem Instruction.run_leads : ∀ (i : Instruction) {log : Log}, log.Built →
    Leads log (i.raised log) (i.run log).trace (i.run log).log
  | .note message, log, h => .quiet (h.push _ _ _) rfl
  | .warn message symbol, log, h => .quiet (h.push _ _ _) rfl
  | .err message symbol, log, h => .quiet (h.push _ _ _) rfl
  | .die message symbol swallow, log, h =>
    Leads.settle (.quiet (h.push .error message symbol).failOpenSteps rfl) swallow _
  | .fail f swallow, log, h => (Leads.refl h).settle swallow _
  | .task name body swallow, log, h => by
    rw [Instruction.run, Instruction.raised]
    exact ((Instruction.runAll_leads body (h.enter name)).exit _).settle swallow _
  | .observe, log, h =>
    ⟨h, (List.append_nil _).symm, fun t ht =>
      .inr ⟨log, h, List.prefix_refl _, List.mem_singleton.mp ht⟩⟩

/-- What comes behind a failure is not run. -/
theorem Instruction.runAll_leads : ∀ (is : List Instruction) {log : Log}, log.Built →
    Leads log (Instruction.raisedAll is log) (Instruction.runAll is log).trace
      (Instruction.runAll is log).log
  | [], log, h => .refl h
  | i :: is, log, h => by
    have hfirst := Instruction.run_leads i h
    rw [Instruction.runAll, Instruction.raisedAll]
    cases hresult : (i.run log).result with
    | ok a => exact hfirst.trans (Instruction.runAll_leads is hfirst.built)
    | error f =>
      rw [List.append_nil]
      exact hfirst
end

theorem runScript_leads (name : String) (script : List Instruction) :
    Leads (.opened name) (Instruction.raisedAll script (.opened name))
      (runScript name script).trace (runScript name script).log :=
  Instruction.runAll_leads script (.opened name)

end ClientGen
