/-
  ClientGen/Proofs/Model/Extraction.lean
  ======================================
  **What extraction makes of a declaration.**

  The problems of a function decide whether it becomes a model, and the problems of its
  functions decide whether a resolved declaration becomes one (`extract_does`).  What an
  extracted model says about its functions is read off their declarations:
  `InterfaceModel.IsExtracted.function` gives the declaration of every function, and the
  lemmas behind it what follows for its return kind, its path and its parameters.
-/
import ClientGen.Model.Extract
import ClientGen.Proofs.Diagnostics.Conduct

namespace ClientGen

open ClientGen.Path ClientGen.Text

/-! ### Functions -/

/-- An error about a declaration, as it is recorded. -/
def reported (symbol : String) (problem : Problem) : Happening :=
  .message .error (trim problem.message) (some symbol)

def noted (text : String) : Happening :=
  .message .step (trim text) none

theorem note_does (text : String) : Does (StepM.note text) ⟨.returns (), [noted text]⟩ :=
  Does.raise .step text none

theorem reportError_does (problem : Problem) (symbol : String) :
    Does (reportError problem symbol) ⟨.returns (), [reported symbol problem]⟩ :=
  Does.raise .error problem.message (some symbol)

theorem reportAll_does {α : Type} (problem : α → Problem) (symbol : String) (xs : List α) :
    Does (forIn xs PUnit.unit fun x _ => do
        reportError (problem x) symbol
        pure (ForInStep.yield PUnit.unit))
      ⟨.returns PUnit.unit, xs.map fun x => reported symbol (problem x)⟩ := by
  induction xs with
  | nil => exact Does.pure PUnit.unit
  | cons x xs ih =>
    rw [List.forIn_cons]
    have hfirst : Does (do
          reportError (problem x) symbol
          pure (ForInStep.yield PUnit.unit))
        ⟨.returns (ForInStep.yield PUnit.unit), [reported symbol (problem x)]⟩ :=
      (reportError_does (problem x) symbol).followed (Does.pure _) rfl
    exact hfirst.followed ih rfl

namespace FunctionDeclaration

/-- The problems behind that of several methods. -/
def typedProblems (f : FunctionDeclaration) : List Problem :=
  match f.returnType with
  | none => [.noReturnType]
  | some _ => (readFunctionAnnotations f.annotations).unvaluedCookies.map fun c =>
    .cookieWithoutValue c.name

/-- What keeps a function from becoming a model. -/
def problems (f : FunctionDeclaration) : List Problem :=
  (if 1 < (readFunctionAnnotations f.annotations).methods.length then [.severalMethods] else [])
    ++ f.typedProblems

/-- The model of a function without problems. -/
def model? (f : FunctionDeclaration) (basePath : String) : Option FunctionModel :=
  match f.returnType with
  | none => none
  | some t =>
    if f.problems.isEmpty then
      some (f.modelWith (readFunctionAnnotations f.annotations) t basePath)
    else none

theorem model?_eq_some {f : FunctionDeclaration} {basePath : String} {model : FunctionModel}
    (h : f.model? basePath = some model) : ∃ t, f.returnType = some t
      ∧ model = f.modelWith (readFunctionAnnotations f.annotations) t basePath := by
  unfold model? at h
  split at h
  · cases h
  · rename_i t htype
    split at h
    · exact ⟨t, htype, (Option.some.inj h).symm⟩
    · cases h

/-- With a return type, several methods and cookies without a value are the problems. -/
theorem problems_isEmpty {f : FunctionDeclaration} {t : TypeRef} (htype : f.returnType = some t) :
    f.problems.isEmpty
      = !(decide (1 < (readFunctionAnnotations f.annotations).methods.length)
          || !(readFunctionAnnotations f.annotations).unvaluedCookies.isEmpty) := by
  by_cases hmethods : 1 < (readFunctionAnnotations f.annotations).methods.length
  · simp [problems, hmethods]
  · simp [problems, typedProblems, htype, hmethods]

theorem extract_does (f : FunctionDeclaration) (basePath owner : String) :
    Does (f.extract basePath owner)
      ⟨.returns (f.model? basePath), f.problems.map (reported (owner ++ "." ++ f.name))⟩ := by
  unfold extract
  extract_lets symbol reading typed
  have htyped : Does (typed ())
      ⟨.returns (f.model? basePath), f.typedProblems.map (reported symbol)⟩ := by
    cases htype : f.returnType with
    | none =>
      simp only [typed, typedProblems, model?, htype]
      exact (reportError_does .noReturnType symbol).followed (Does.pure none) rfl
    | some t =>
      simp only [typed, htype]
      refine (reportAll_does (fun c : Cookie => Problem.cookieWithoutValue c.name) symbol
        _).followed (d := .pure (f.model? basePath)) ?_ ?_
      · simp only [model?, htype, problems_isEmpty htype]
        split
        · rename_i hproblem
          rw [if_neg (by rw [hproblem]; decide)]
          exact Does.pure none
        · rename_i hclean
          rw [if_pos (by rw [Bool.not_eq_true] at hclean; rw [hclean]; decide)]
          exact Does.pure _
      · simp [Conduct.pure, typedProblems, htype, Function.comp_def, reading]
  by_cases hmethods : 1 < reading.methods.length
  · rw [if_pos hmethods]
    refine (reportError_does .severalMethods symbol).followed htyped ?_
    simp only [problems, reading, if_pos hmethods, List.map_append, List.map_cons, List.map_nil,
      symbol]
  · rw [if_neg hmethods]
    simpa only [problems, reading, if_neg hmethods, List.nil_append] using htyped

end FunctionDeclaration

/-! ### Declarations -/

/-- The problems of functions, each recorded under the name of its function. -/
def reportedProblems (owner : String) (fs : List FunctionDeclaration) : List Happening :=
  fs.flatMap fun f => f.problems.map (reported (owner ++ "." ++ f.name))

theorem extractFunctions_does (basePath owner : String) (fs : List FunctionDeclaration) :
    Does (extractFunctions basePath owner fs)
      ⟨.returns (fs.filterMap (FunctionDeclaration.model? · basePath)),
        reportedProblems owner fs⟩ := by
  induction fs with
  | nil => exact Does.pure []
  | cons f fs ih =>
    refine (f.extract_does basePath owner).followed (ih.followed (Does.pure _) rfl) ?_
    cases hmodel : f.model? basePath with
    | none => simp [reportedProblems, hmodel, Conduct.pure]
    | some model => simp [reportedProblems, hmodel, Conduct.pure]

theorem countAll_reported (symbol : String) (ps : List Problem) :
    Happening.countAll .error (ps.map (reported symbol)) = ps.length := by
  induction ps with
  | nil => rfl
  | cons p ps ih =>
    have hcount : Happening.count .error (reported symbol p) = 1 := rfl
    simp only [List.map_cons, Happening.countAll, hcount, ih, List.length_cons]
    omega

theorem countAll_reportedProblems (owner : String) (fs : List FunctionDeclaration) :
    Happening.countAll .error (reportedProblems owner fs) = 0 ↔ ∀ f ∈ fs, f.problems = [] := by
  induction fs with
  | nil => simp [reportedProblems, Happening.countAll]
  | cons f fs ih =>
    have hsplit : reportedProblems owner (f :: fs)
        = f.problems.map (reported (owner ++ "." ++ f.name)) ++ reportedProblems owner fs := rfl
    rw [hsplit, Happening.countAll_append, countAll_reported, Nat.add_eq_zero_iff, ih,
      List.length_eq_zero_iff, List.forall_mem_cons]

namespace ClassDeclaration

/-- The settings that count: those of the interface before those of its companion. -/
def settings (c : ClassDeclaration) : ClassSettings :=
  (c.ownSettings.1.or c.companionSettings.1).getD .default

/-- The settings with every default resolved. -/
def resolvedOptions (c : ClassDeclaration) : ClassOptions :=
  c.options c.settings (c.ownSettings.2.or c.companionSettings.2)

def resolvedModel (c : ClassDeclaration) (factories : List FunctionDeclaration) (file : FileRef) :
    InterfaceModel :=
  c.modelWith factories file c.resolvedOptions
    (c.functions.filterMap (FunctionDeclaration.model? · c.resolvedOptions.basePath))

/-- What becomes of a declaration whose types are resolved. -/
def resolvedConduct (c : ClassDeclaration) (factories : List FunctionDeclaration)
    (file : FileRef) : Conduct Extraction :=
  let problems := reportedProblems c.qualifiedName c.functions
  let model := c.resolvedModel factories file
  if !c.settings.generate then ⟨.returns .skipped, [noted "Skipped, generate = false"]⟩
  else if 0 < Happening.countAll .error problems then ⟨.returns .rejected, problems⟩
  else ⟨.returns (.ready model), problems
    ++ [noted ("Extracted " ++ toString model.functions.length ++ " function(s)")]⟩

theorem extractResolved_does (c : ClassDeclaration) (factories : List FunctionDeclaration)
    (file : FileRef) :
    Does (c.extractResolved factories file) (c.resolvedConduct factories file) := by
  unfold extractResolved
  extract_lets settings options
  have hsettings : settings = c.settings := rfl
  have hoptions : options = c.resolvedOptions := rfl
  rw [hsettings, hoptions]
  unfold resolvedConduct
  by_cases hskip : (!c.settings.generate) = true
  · simp only [if_pos hskip]
    exact (note_does "Skipped, generate = false").followed (Does.pure _) rfl
  · simp only [if_neg hskip]
    have hready : ∀ functions : List FunctionModel,
        Does (do
            StepM.note ("Extracted " ++ toString functions.length ++ " function(s)")
            pure (Extraction.ready (c.modelWith factories file c.resolvedOptions functions)))
          ⟨.returns (.ready (c.modelWith factories file c.resolvedOptions functions)),
            [noted ("Extracted " ++ toString functions.length ++ " function(s)")]⟩ :=
      fun functions => (note_does _).followed (Does.pure _) rfl
    have hwork := (extractFunctions_does c.resolvedOptions.basePath c.qualifiedName
      c.functions).unlessErrors (fun _ => Does.pure Extraction.rejected) hready
    refine Eq.mp (congrArg _ ?_) hwork
    by_cases herrors
        : 0 < Happening.countAll .error (reportedProblems c.qualifiedName c.functions)
    · simp only [Conduct.bind, if_pos herrors, Conduct.pure, List.append_nil]
    · simp only [Conduct.bind, if_neg herrors]
      rfl

def commonConduct (c : ClassDeclaration) (factories : List FunctionDeclaration) :
    Conduct Extraction :=
  if c.kind != .interfaceKind then
    ⟨.returns .rejected, [reported c.qualifiedName .typeNotAllowed]⟩
  else match c.file with
    | none => ⟨.returns .rejected, [reported c.qualifiedName .noFile]⟩
    | some file =>
      match unresolvedNames c factories with
      | [] => c.resolvedConduct factories file
      | names =>
        ⟨.returns (.deferred names), [noted ("Deferred, unresolved: " ++ join ", " names)]⟩

def conduct (c : ClassDeclaration) (factories : List FunctionDeclaration) : Conduct Extraction :=
  if c.isExpectOrExternal then
    .die (Problem.expectOrExternal c.qualifiedName).message (some c.qualifiedName)
  else match c.functions.find? FunctionDeclaration.isExpectOrExternal with
    | some f =>
      let inner := c.qualifiedName ++ "." ++ f.name
      .die (Problem.expectOrExternal inner).message (some inner)
    | none => c.commonConduct factories

/-- What becomes of a declaration depends on it and its factories alone. -/
theorem extract_does (c : ClassDeclaration) (factories : List FunctionDeclaration) :
    Does (c.extract factories) (c.conduct factories) := by
  unfold extract conduct
  extract_lets symbol common checked
  have hcommon : Does (common ()) (c.commonConduct factories) := by
    simp only [common, commonConduct]
    split
    · exact (reportError_does .typeNotAllowed symbol).followed (Does.pure _) rfl
    · cases c.file with
      | none => exact (reportError_does .noFile symbol).followed (Does.pure _) rfl
      | some file =>
        cases unresolvedNames c factories with
        | nil => exact c.extractResolved_does factories file
        | cons name names => exact (note_does _).followed (Does.pure _) rfl
  split
  · exact Does.die_bind _ _ _
  · simp only [checked]
    cases c.functions.find? FunctionDeclaration.isExpectOrExternal with
    | none => exact hcommon
    | some f => exact Does.die_bind _ _ _

end ClassDeclaration

/-! ### Extracted models -/

/-- The model is what extraction made of some declaration. -/
def InterfaceModel.IsExtracted (m : InterfaceModel) : Prop :=
  ∃ (c : ClassDeclaration) (factories : List FunctionDeclaration) (log log' : Log),
    (c.extract factories).run.run log = (.ok (.ready m), log')

/-- What a declaration ends in once its types are looked at. -/
theorem ClassDeclaration.cases_of_resolvedConduct {c : ClassDeclaration}
    {factories : List FunctionDeclaration} {file : FileRef} {e : Extraction}
    (h : (c.resolvedConduct factories file).ending = .returns e) :
    e = .skipped ∨ e = .rejected
      ∨ (∀ f ∈ c.functions, f.problems = []) ∧ e = .ready (c.resolvedModel factories file) := by
  unfold resolvedConduct at h
  simp only at h
  split at h
  · cases h
    exact .inl rfl
  · split at h
    · cases h
      exact .inr (.inl rfl)
    · rename_i hclean
      rw [Nat.not_lt, Nat.le_zero, countAll_reportedProblems] at hclean
      cases h
      exact .inr (.inr ⟨hclean, rfl⟩)

/-- A declaration that is not rejected early is deferred by its unresolved names, and without
    any it ends in what its resolved types lead to. -/
theorem ClassDeclaration.cases_of_extract {c : ClassDeclaration}
    {factories : List FunctionDeclaration} {log log' : Log} {e : Extraction}
    (hrun : (c.extract factories).run.run log = (.ok e, log')) :
    e = .rejected
      ∨ unresolvedNames c factories ≠ [] ∧ e = .deferred (unresolvedNames c factories)
      ∨ unresolvedNames c factories = [] ∧ ∃ file, c.file = some file
        ∧ (c.resolvedConduct factories file).ending = .returns e := by
  have hending := (c.extract_does factories).ending_eq_returns hrun
  unfold conduct commonConduct at hending
  split at hending
  · cases hending
  · split at hending
    · cases hending
    · split at hending
      · cases hending
        exact .inl rfl
      · split at hending
        · cases hending
          exact .inl rfl
        · rename_i file hfile
          split at hending
          · rename_i hnames
            exact .inr (.inr ⟨hnames, file, hfile, hending⟩)
          · rename_i hnames
            cases hending
            exact .inr (.inl ⟨fun h => hnames h, rfl⟩)

/-- A declaration is extracted when all of its functions are free of problems, and its model
    is the resolved one. -/
theorem ClassDeclaration.eq_resolvedModel {c : ClassDeclaration}
    {factories : List FunctionDeclaration} {log log' : Log} {m : InterfaceModel}
    (hrun : (c.extract factories).run.run log = (.ok (.ready m), log')) :
    ∃ file, c.file = some file ∧ (∀ f ∈ c.functions, f.problems = [])
      ∧ m = c.resolvedModel factories file := by
  obtain hrejected | ⟨-, hdeferred⟩ | ⟨-, file, hfile, hending⟩ := cases_of_extract hrun
  · cases hrejected
  · cases hdeferred
  · obtain hskipped | hrejected | ⟨hclean, hready⟩ := cases_of_resolvedConduct hending
    · cases hskipped
    · cases hrejected
    · cases hready
      exact ⟨file, hfile, hclean, rfl⟩

theorem InterfaceModel.IsExtracted.function {m : InterfaceModel} (hm : m.IsExtracted)
    {f : FunctionModel} (hf : f ∈ m.functions) :
    ∃ (d : FunctionDeclaration) (reading : FunctionReading) (t : TypeRef),
      f = d.modelWith reading t m.options.basePath := by
  obtain ⟨c, factories, log, log', hrun⟩ := hm
  obtain ⟨file, hfile, hclean, rfl⟩ := ClassDeclaration.eq_resolvedModel hrun
  have hmem : f ∈ c.functions.filterMap
      (FunctionDeclaration.model? · c.resolvedOptions.basePath) := hf
  obtain ⟨d, hd, hmodel⟩ := List.mem_filterMap.mp hmem
  obtain ⟨t, -, hwith⟩ := FunctionDeclaration.model?_eq_some hmodel
  exact ⟨d, readFunctionAnnotations d.annotations, t, hwith⟩

namespace FunctionModel

/-- What the declaration of a function says about its model. -/
structure IsRead (f : FunctionModel) (basePath : String) : Prop where
  returnKind : f.returnKind = .classify f.returnType
  path : f.path = Template.parse (effectivePath basePath f.httpMethod.path (f.hasRole .url))
  /-- An explicit role wins over the type of a builder. -/
  builder : ∀ p ∈ f.parameters, p.roles ≠ [] → p.builder = none

end FunctionModel

theorem ParameterDeclaration.builder_model {p : ParameterDeclaration}
    (h : p.model.roles ≠ []) : p.model.builder = none := by
  unfold ParameterDeclaration.model at h ⊢
  simp only at h ⊢
  rw [if_neg (by simpa [List.isEmpty_iff] using h)]

theorem FunctionDeclaration.modelWith_isRead (d : FunctionDeclaration)
    (reading : FunctionReading) (t : TypeRef) (basePath : String) :
    (d.modelWith reading t basePath).IsRead basePath where
  returnKind := rfl
  path := rfl
  builder := by
    intro p hp hroles
    obtain ⟨q, hq, rfl⟩ := List.mem_map.mp hp
    exact ParameterDeclaration.builder_model hroles

theorem InterfaceModel.IsExtracted.isRead {m : InterfaceModel} (hm : m.IsExtracted)
    {f : FunctionModel} (hf : f ∈ m.functions) : f.IsRead m.options.basePath := by
  obtain ⟨d, reading, t, rfl⟩ := hm.function hf
  exact d.modelWith_isRead reading t m.options.basePath

/-! ### A declaration that is read -/

namespace ClassDeclaration

/-- Extraction turns the declaration into a model. -/
def isReady (c : ClassDeclaration) (factories : List FunctionDeclaration) : Bool :=
  match (c.conduct factories).ending with
  | .returns (.ready _) => true
  | _ => false

theorem extract_of_isReady {c : ClassDeclaration} {factories : List FunctionDeclaration}
    {file : FileRef} (hfile : c.file = some file) (hready : c.isReady factories = true)
    (log : Log) : ∃ log',
      (c.extract factories).run.run log = (.ok (.ready (c.resolvedModel factories file)), log') := by
  unfold isReady at hready
  split at hready
  · rename_i m hending
    obtain ⟨log', hrun⟩ := (c.extract_does factories).run_eq_ok hending log
    obtain ⟨file', hfile', -, rfl⟩ := eq_resolvedModel hrun
    rw [hfile] at hfile'
    cases hfile'
    exact ⟨log', hrun⟩
  · cases hready

theorem isExtracted_of_isReady {c : ClassDeclaration} {factories : List FunctionDeclaration}
    {file : FileRef} (hfile : c.file = some file) (hready : c.isReady factories = true) :
    (c.resolvedModel factories file).IsExtracted := by
  obtain ⟨log', hrun⟩ := extract_of_isReady hfile hready (.opened "")
  exact ⟨c, factories, _, log', hrun⟩

end ClassDeclaration

def FunctionDeclaration.getting (path : String) (parameters : List ParameterDeclaration)
    (returnType : TypeRef) : FunctionDeclaration where
  name := "get"
  packageName := none
  visibility := .publicScope
  modifiers := [.suspending, .abstractMember]
  annotations := [⟨"GET", [("value", .string path)]⟩]
  typeParameters := []
  parameters := parameters
  returnType := some returnType
  file := none
  doc := none

def ClassDeclaration.holding (name : String) (functions : List FunctionDeclaration) :
    ClassDeclaration where
  qualifiedName := name
  packageName := none
  kind := .interfaceKind
  visibility := .publicScope
  modifiers := []
  annotations := [.named "KtorGen"]
  supertypes := []
  properties := []
  functions := functions
  companion := none
  file := some ⟨name ++ ".kt", []⟩
  doc := none

def InterfaceModel.holding (name : String) (functions : List FunctionDeclaration) :
    InterfaceModel :=
  (ClassDeclaration.holding name functions).resolvedModel [] ⟨name ++ ".kt", []⟩

theorem InterfaceModel.holding_isExtracted {name : String} {functions : List FunctionDeclaration}
    (h : (ClassDeclaration.holding name functions).isReady [] = true) :
    (InterfaceModel.holding name functions).IsExtracted :=
  ClassDeclaration.isExtracted_of_isReady rfl h

end ClientGen
