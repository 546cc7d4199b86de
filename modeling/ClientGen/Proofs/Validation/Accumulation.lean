/-
  ClientGen/Proofs/Validation/Accumulation.lean
  =============================================
  **A pipeline accumulates, in any order.**

  What a rule set remarks depends on the interface alone, so a pipeline of any rule sets
  leaves every remark of every rule set in the log, one step after the other, and only
  asks whether an error is among them (`pipeline_accumulates`).  Another order of the rule
  sets comes to the same decision and records the same remarks in another order.
-/
import ClientGen.Proofs.Validation.Acceptance

namespace ClientGen

open ClientGen.Text

/-! ### What is recorded -/

/-- A remark as a record of the step at a path. -/
def Remark.diagnostic (path : List String) (r : Remark) : Diagnostic where
  severity := r.severity
  message := trim r.message
  symbol := if r.severity = .step then none else r.symbol
  path := path

/-- The records of a rule set that runs in the step at a path. -/
def RuleSet.diagnostics (path : List String) (c : Context) (rules : RuleSet) : List Diagnostic :=
  (rules.remarks c).map (Remark.diagnostic (path ++ [rules.name]))

def RuleSet.step (path : List String) (c : Context) (rules : RuleSet) : StepNode where
  name := rules.name
  status := .completed
  entries := (rules.diagnostics path c).map .message

/-- The log after a pipeline has run in its current step. -/
def Log.afterPipeline (log : Log) (c : Context) (pipeline : List RuleSet) : Log :=
  { log with
    records := log.records ++ pipeline.flatMap (RuleSet.diagnostics log.path c)
    current := { log.current with
      entries := log.current.entries
        ++ pipeline.map fun rules => .step (rules.step log.path c) } }

/-- No rule set of the pipeline remarks an error. -/
def Flawless (c : Context) (pipeline : List RuleSet) : Prop :=
  ∀ rules ∈ pipeline, ∀ r ∈ rules.remarks c, r.severity ≠ .error

instance (c : Context) (pipeline : List RuleSet) : Decidable (Flawless c pipeline) :=
  inferInstanceAs (Decidable (∀ rules ∈ pipeline, ∀ r ∈ rules.remarks c, r.severity ≠ .error))

/-! ### Steps of rule sets -/

theorem allRecords_remarks (path : List String) (rs : List Remark) :
    Happening.allRecords path (rs.map Remark.happening) = rs.map (Remark.diagnostic path) := by
  induction rs with
  | nil => rfl
  | cons r rs ih => rw [List.map_cons, Happening.allRecords, ih]; rfl

theorem entries_remarks (path : List String) (rs : List Remark) :
    Happening.entries path (rs.map Remark.happening)
      = (rs.map (Remark.diagnostic path)).map .message := by
  induction rs with
  | nil => rfl
  | cons r rs ih => rw [List.map_cons, Happening.entries, ih]; rfl

section Pipeline

variable (c : Context) (pipeline : List RuleSet)

theorem allRecords_rules (path : List String) :
    Happening.allRecords path (pipeline.map (RuleSet.happening c))
      = pipeline.flatMap (RuleSet.diagnostics path c) := by
  induction pipeline with
  | nil => rfl
  | cons rules pipeline ih =>
    rw [List.map_cons, Happening.allRecords, ih, RuleSet.happening, Happening.records,
      allRecords_remarks]
    rfl

theorem entries_rules (path : List String) :
    Happening.entries path (pipeline.map (RuleSet.happening c))
      = pipeline.map fun rules => .step (rules.step path c) := by
  induction pipeline with
  | nil => rfl
  | cons rules pipeline ih =>
    rw [List.map_cons, Happening.entries, ih, RuleSet.happening, Happening.entry, entries_remarks]
    rfl

theorem after_rules (log : Log) :
    log.after (pipeline.map (RuleSet.happening c)) = log.afterPipeline c pipeline := by
  rw [Log.after, allRecords_rules, entries_rules, Log.afterPipeline]

theorem remarkedErrors_eq_zero : remarkedErrors c pipeline = 0 ↔ Flawless c pipeline := by
  have hone : ∀ rules : RuleSet, (rules.remarks c).countP Remark.isError = 0
      ↔ ∀ r ∈ rules.remarks c, r.severity ≠ .error := by
    intro rules
    rw [List.countP_eq_zero]
    simp only [Remark.isError, beq_iff_eq, ne_eq]
  unfold remarkedErrors Flawless
  rw [List.sum_eq_zero_iff_forall_eq_nat, List.forall_mem_map]
  exact forall₂_congr fun rules _ => hone rules

theorem flawless_iff_of_perm {other : List RuleSet} (h : pipeline.Perm other) :
    Flawless c other ↔ Flawless c pipeline :=
  ⟨fun hother rules hrules => hother rules (h.mem_iff.mp hrules),
    fun hpipeline rules hrules => hpipeline rules (h.mem_iff.mpr hrules)⟩

end Pipeline

/-- Whatever is in the log, a pipeline of rule sets runs every one of them in a step of its own,
    records every remark there, and hands the model back exactly if no remark is an error. -/
theorem run_validateBy {pipeline : List RuleSet} (hpipeline : pipeline ≠ []) (m : InterfaceModel)
    (o : Options) (log : Log) :
    (validateBy pipeline m o).run.run log
      = (.ok (if Flawless ⟨m, o⟩ pipeline then some m else none),
        log.afterPipeline ⟨m, o⟩ pipeline) := by
  have hrun := validateBy_does pipeline m o log
  rw [pipelineConduct, if_neg (by simpa using hpipeline)] at hrun
  rw [hrun, ← after_rules]
  simp only [remarkedErrors_eq_zero]
  rfl

/-! ### Any order -/

/-- A pipeline that is not empty never fails: it decides by the errors among all remarks and
    leaves all of them in the log, each in the step of its rule set.  In another order the same
    rule sets decide alike and record the same. -/
theorem pipeline_accumulates {pipeline other : List RuleSet} (hpipeline : pipeline ≠ [])
    (horder : pipeline.Perm other) (m : InterfaceModel) (o : Options) (log : Log) :
    (validateBy pipeline m o).run.run log
        = (.ok (if Flawless ⟨m, o⟩ pipeline then some m else none),
          log.afterPipeline ⟨m, o⟩ pipeline)
      ∧ ((validateBy other m o).run.run log).1 = ((validateBy pipeline m o).run.run log).1
      ∧ ((validateBy other m o).run.run log).2.records.Perm
        ((validateBy pipeline m o).run.run log).2.records := by
  have hother : other ≠ [] := fun hnil => hpipeline (List.perm_nil.mp (hnil ▸ horder))
  refine ⟨run_validateBy hpipeline m o log, ?_, ?_⟩
  · rw [run_validateBy hpipeline, run_validateBy hother]
    simp only [flawless_iff_of_perm ⟨m, o⟩ pipeline horder]
  · rw [run_validateBy hpipeline, run_validateBy hother]
    exact (horder.symm.flatMap_right _).append_left log.records

def RuleSet.naming : RuleSet where
  name := "Naming"
  remarks c :=
    [⟨.error, " No name is too short: " ++ c.model.simpleName ++ "\n", some c.model.qualifiedName⟩,
      ⟨.warning, "Names are checked.", none⟩]

/-- The error of a rule set that runs first neither hides the finding of a check behind it nor
    depends on the order. -/
theorem pipeline_accumulates_of_naming :
    let pipeline := [RuleSet.naming, Check.classLevel.ruleSet]
    let options : ClassOptions :=
      { (default : ClassOptions) with
        classVisibility := "public", constructorVisibility := "public", functionVisibility := "public" }
    let m : InterfaceModel :=
      { (default : InterfaceModel) with
        simpleName := "A", qualifiedName := "demo.A", options := options }
    pipeline ≠ [] ∧ pipeline.Perm pipeline.reverse
      ∧ ((validateBy pipeline m .default).run.run (.opened "Round")).1 = .ok none
      ∧ ((validateBy pipeline m .default).run.run (.opened "Round")).2.records
        = [⟨.error, "No name is too short: A", some "demo.A", ["Round", "Naming"]⟩,
          ⟨.warning, "Names are checked.", none, ["Round", "Naming"]⟩,
          ⟨.error,
            "A private interface cannot be implemented by a generated class. Current 'private'",
            some "demo.A", ["Round", "Class Level"]⟩]
      ∧ ((validateBy pipeline.reverse m .default).run.run (.opened "Round")).1 = .ok none := by
  intro pipeline options m
  have hpipeline : pipeline ≠ [] := List.cons_ne_nil _ _
  have horder : pipeline.Perm pipeline.reverse := (List.reverse_perm pipeline).symm
  have hflawed : ¬ Flawless ⟨m, .default⟩ pipeline := by decide +kernel
  obtain ⟨hrun, hother, -⟩ := pipeline_accumulates hpipeline horder m .default (.opened "Round")
  rw [hother, hrun, if_neg hflawed]
  exact ⟨hpipeline, horder, rfl, by decide +kernel, rfl⟩

end ClientGen
