/-
  ClientGen/Proofs/Validation/Acceptance.lean
  ===========================================
  **When checks accept a model.**

  Rule sets never fail and never look at the log, so a model is handed back exactly when
  none of them reports an error about it (`validateBy_does`), and with checks it is their
  findings that decide (`validate_does`).  The lemmas on `errorsIn` turn the absence of
  errors into what each finding rules out.
-/
import ClientGen.Proofs.Diagnostics.Conduct
import ClientGen.Validation.Pipeline
import Mathlib.Algebra.GroupWithZero.Nat

namespace ClientGen

open ClientGen.Text

/-! ### Errors among findings -/

theorem errorsIn_append (fs gs : List Finding) :
    errorsIn (fs ++ gs) = errorsIn fs + errorsIn gs := by
  simp [errorsIn, List.filter_append]

@[simp] theorem errorsIn_append_eq_zero {fs gs : List Finding} :
    errorsIn (fs ++ gs) = 0 ↔ errorsIn fs = 0 ∧ errorsIn gs = 0 := by
  rw [errorsIn_append, Nat.add_eq_zero_iff]

@[simp] theorem errorsIn_nil : errorsIn [] = 0 := rfl

@[simp] theorem errorsIn_flatMap_eq_zero {α : Type} {xs : List α} {g : α → List Finding} :
    errorsIn (xs.flatMap g) = 0 ↔ ∀ x ∈ xs, errorsIn (g x) = 0 := by
  induction xs with
  | nil => simp
  | cons x xs ih => rw [List.flatMap_cons, errorsIn_append_eq_zero, ih, List.forall_mem_cons]

theorem errorsIn_singleton {f : Finding} (h : f.isError = true) : errorsIn [f] = 1 := by
  simp [errorsIn, h]

/-- An error is left out exactly when its condition does not hold. -/
theorem errorsIn_whenever {b : Bool} {f : Finding} (h : f.isError = true) :
    errorsIn (whenever b f) = 0 ↔ b = false := by
  cases b with
  | false => simp [whenever]
  | true => simp [whenever, errorsIn_singleton h]

theorem errorsIn_whenever_warning {b : Bool} {f : Finding} (h : f.isError = false) :
    errorsIn (whenever b f) = 0 := by
  cases b with
  | false => rfl
  | true => simp [whenever, errorsIn, h]

section Context

variable (c : Context) (f : FunctionModel) (p : ParameterModel) (problem : Problem) (b : Bool)

@[simp] theorem errorsIn_onInterface :
    errorsIn (whenever b (c.onInterface problem)) = 0 ↔ b = false :=
  errorsIn_whenever rfl

@[simp] theorem errorsIn_error : errorsIn (whenever b (c.error f problem)) = 0 ↔ b = false :=
  errorsIn_whenever rfl

@[simp] theorem errorsIn_parameterError :
    errorsIn (whenever b (c.parameterError f p problem)) = 0 ↔ b = false :=
  errorsIn_whenever rfl

@[simp] theorem errorsIn_warning : errorsIn (whenever b (c.warning f problem)) = 0 :=
  errorsIn_whenever_warning rfl

@[simp] theorem errorsIn_parameterWarning :
    errorsIn (whenever b (c.parameterWarning f p problem)) = 0 :=
  errorsIn_whenever_warning rfl

end Context

/-! ### Settings -/

theorem Validation.visibilityFindings_congr {c c' : Context} (h : c.onInterface = c'.onInterface) :
    visibilityFindings c = visibilityFindings c' := by
  funext value problem forbidPrivate
  simp only [visibilityFindings, h]

/-- The settings are judged without a look at the functions or at the options. -/
theorem Validation.settingsFindings_withFunctions (m : InterfaceModel)
    (functions : List FunctionModel) (o o' : Options) :
    settingsFindings ⟨{ m with functions := functions }, o'⟩ = settingsFindings ⟨m, o⟩ := by
  have hvisibility : visibilityFindings ⟨{ m with functions := functions }, o'⟩
      = visibilityFindings ⟨m, o⟩ :=
    visibilityFindings_congr rfl
  simp only [settingsFindings, hvisibility]
  rfl

/-! ### Recording -/

/-- A finding without a signature says what its problem says. -/
theorem Finding.message_of_unsigned {f : Finding} (h : f.signature = none) :
    f.message = f.problem.message := by
  rw [message, h]
  exact String.append_empty

def Remark.happening (r : Remark) : Happening :=
  .message r.severity (trim r.message) (if r.severity = .step then none else r.symbol)

def Finding.happening (f : Finding) : Happening :=
  .message f.severity (trim f.message) (if f.severity = .step then none else f.symbol)

theorem recordAll_does (fs : List Finding) :
    Does (recordAll fs) ⟨.returns (), fs.map Finding.happening⟩ := by
  induction fs with
  | nil => exact Does.pure ()
  | cons f fs ih =>
    exact (Does.raise f.severity f.message _).followed ih rfl

/-- Every finding is in the log afterwards. -/
theorem exists_record_recordAll {fs : List Finding} {f : Finding} (hf : f ∈ fs) {log log' : Log}
    {result : Except Fatal Unit} (hrun : (recordAll fs).run.run log = (result, log')) :
    ∃ d ∈ log'.records, d.severity = f.severity ∧ d.message = trim f.message
      ∧ d.symbol = if f.severity = .step then none else f.symbol := by
  have hrecords := (recordAll_does fs).records log
  rw [hrun] at hrecords
  refine ⟨⟨f.severity, trim f.message, if f.severity = .step then none else f.symbol, log.path⟩,
    ?_, rfl, rfl, rfl⟩
  rw [hrecords]
  refine List.mem_append_right _ (Happening.mem_allRecords ?_)
  exact List.mem_map_of_mem hf

theorem recordRemarks_does (rs : List Remark) :
    Does (rs.forM Remark.record) ⟨.returns (), rs.map Remark.happening⟩ := by
  induction rs with
  | nil => exact Does.pure ()
  | cons r rs ih =>
    exact (Does.raise r.severity r.message _).followed ih rfl

/-! ### Running rule sets -/

/-- A rule set as it is recorded: its remarks, in a step of its own. -/
def RuleSet.happening (c : Context) (rules : RuleSet) : Happening :=
  .step rules.name .completed ((rules.remarks c).map Remark.happening)

/-- How many errors rule sets report. -/
def remarkedErrors (c : Context) (pipeline : List RuleSet) : Nat :=
  (pipeline.map fun rules => (rules.remarks c).countP Remark.isError).sum

theorem RuleSet.run_does (rules : RuleSet) (c : Context) :
    Does (rules.run c)
      ⟨.returns ((rules.remarks c).countP Remark.isError), [rules.happening c]⟩ := by
  have hwork : Does (do
        (rules.remarks c).forM Remark.record
        pure ((rules.remarks c).countP Remark.isError))
      ⟨.returns ((rules.remarks c).countP Remark.isError),
        (rules.remarks c).map Remark.happening⟩ :=
    (recordRemarks_does (rules.remarks c)).followed (Does.pure _) (by simp [Conduct.pure])
  exact hwork.task rules.name

theorem runRules_does (c : Context) (pipeline : List RuleSet) :
    Does (runRules c pipeline)
      ⟨.returns (remarkedErrors c pipeline), pipeline.map (RuleSet.happening c)⟩ := by
  induction pipeline with
  | nil => exact Does.pure 0
  | cons rules pipeline ih =>
    refine (rules.run_does c).followed (ih.followed (Does.pure _) rfl) ?_
    simp [remarkedErrors, Conduct.pure]

/-- What validation does: an empty pipeline is a defect, and otherwise the errors decide. -/
def pipelineConduct (pipeline : List RuleSet) (m : InterfaceModel) (o : Options) :
    Conduct (Option InterfaceModel) :=
  if pipeline.isEmpty then .throw (.defect "ValidatorPipeline must have at least one validator")
  else ⟨.returns (if remarkedErrors ⟨m, o⟩ pipeline = 0 then some m else none),
    pipeline.map (RuleSet.happening ⟨m, o⟩)⟩

theorem validateBy_does (pipeline : List RuleSet) (m : InterfaceModel) (o : Options) :
    Does (validateBy pipeline m o) (pipelineConduct pipeline m o) := by
  unfold validateBy pipelineConduct
  by_cases hempty : pipeline.isEmpty = true
  · simp only [if_pos hempty]
    exact (Does.throw _).failed
  · simp only [if_neg hempty]
    refine (runRules_does ⟨m, o⟩ pipeline).followed (Does.pure _) ?_
    simp [Conduct.pure]

/-! ### Running checks -/

def Check.happening (c : Context) (check : Check) : Happening :=
  .step check.name .completed ((check.findings c).map Finding.happening)

/-- How many errors checks report. -/
def errorsOf (c : Context) (checks : List Check) : Nat :=
  (checks.map fun check => errorsIn (check.findings c)).sum

theorem Check.happening_ruleSet (c : Context) (check : Check) :
    check.ruleSet.happening c = check.happening c := by
  simp only [RuleSet.happening, Check.ruleSet, List.map_map]
  rfl

theorem countP_remark (fs : List Finding) :
    (fs.map Finding.remark).countP Remark.isError = errorsIn fs := by
  rw [List.countP_map, List.countP_eq_length_filter]
  rfl

theorem remarkedErrors_checks (c : Context) (checks : List Check) :
    remarkedErrors c (checks.map Check.ruleSet) = errorsOf c checks := by
  simp only [remarkedErrors, errorsOf, List.map_map, Function.comp_def, Check.ruleSet,
    countP_remark]

def validationConduct (checks : List Check) (m : InterfaceModel) (o : Options) :
    Conduct (Option InterfaceModel) :=
  if checks.isEmpty then .throw (.defect "ValidatorPipeline must have at least one validator")
  else ⟨.returns (if errorsOf ⟨m, o⟩ checks = 0 then some m else none),
    checks.map (Check.happening ⟨m, o⟩)⟩

theorem validate_does (checks : List Check) (m : InterfaceModel) (o : Options) :
    Does (validate checks m o) (validationConduct checks m o) := by
  have hconduct : pipelineConduct (checks.map Check.ruleSet) m o = validationConduct checks m o := by
    simp only [pipelineConduct, validationConduct, List.isEmpty_map, remarkedErrors_checks,
      List.map_map]
    have hhappening : RuleSet.happening ⟨m, o⟩ ∘ Check.ruleSet = Check.happening ⟨m, o⟩ :=
      funext (Check.happening_ruleSet ⟨m, o⟩)
    rw [hhappening]
  rw [← hconduct]
  exact validateBy_does (checks.map Check.ruleSet) m o

/-! ### Accepted models -/

/-- No check reports an error about the model. -/
def Accepted (checks : List Check) (m : InterfaceModel) (o : Options) : Prop :=
  ∀ check ∈ checks, errorsIn (check.findings ⟨m, o⟩) = 0

theorem errorsOf_eq_zero {checks : List Check} {m : InterfaceModel} {o : Options} :
    errorsOf ⟨m, o⟩ checks = 0 ↔ Accepted checks m o := by
  unfold errorsOf Accepted
  induction checks with
  | nil => simp
  | cons check checks ih =>
    rw [List.map_cons, List.sum_cons, Nat.add_eq_zero_iff, ih, List.forall_mem_cons]

/-- A model that is handed back is the one that was checked, and no check reported an error. -/
theorem accepted_of_validate {checks : List Check} {m m' : InterfaceModel} {o : Options}
    {log log' : Log} (hrun : (validate checks m o).run.run log = (.ok (some m'), log')) :
    m' = m ∧ Accepted checks m o := by
  have hending := (validate_does checks m o).ending_eq_returns hrun
  unfold validationConduct at hending
  split at hending
  · cases hending
  · simp only [Ending.returns.injEq] at hending
    split at hending
    · rename_i hzero
      exact ⟨(Option.some.inj hending).symm, errorsOf_eq_zero.mp hzero⟩
    · cases hending

theorem validate_of_accepted {checks : List Check} {m : InterfaceModel} {o : Options}
    (hchecks : checks.isEmpty = false) (h : Accepted checks m o) (log : Log) :
    ∃ log', (validate checks m o).run.run log = (.ok (some m), log') := by
  apply (validate_does checks m o).run_eq_ok
  rw [validationConduct, if_neg (by rw [hchecks]; decide), if_pos (errorsOf_eq_zero.mpr h)]

end ClientGen
