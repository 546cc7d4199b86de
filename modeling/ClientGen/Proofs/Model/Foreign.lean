/-
  ClientGen/Proofs/Model/Foreign.lean
  ===================================
  **Foreign annotations are read by nobody.**

  An annotation outside of the vocabulary is no word, so every reader passes over it and
  only hands it on.  Leaving such annotations out of a declaration therefore leaves them out
  of its model and changes nothing else: `conduct_withoutForeign` for the extraction, with
  everything that it records, and `findings_withoutForeign` for every check.  Two
  declarations that differ in foreign annotations are compared through what is left of both.

  The annotations are left out of the functions alone, or of their parameters too (`Scope`).
-/
import ClientGen.Proofs.Model.Extraction
import ClientGen.Proofs.Validation.Acceptance
import ClientGen.Proofs.Vocabulary.Partition

namespace ClientGen

open ClientGen.Path ClientGen.Text

/-! ### Foreign annotations -/

/-- The annotations of the vocabulary. -/
def vocabularyOf (uses : List AnnotationUse) : List AnnotationUse :=
  uses.filter fun a => isVocabulary a.qualifiedName

theorem passthroughOf_vocabularyOf (uses : List AnnotationUse) :
    passthroughOf (vocabularyOf uses) = [] := by
  unfold passthroughOf vocabularyOf
  rw [List.filter_filter, List.filter_eq_nil_iff]
  intro a _
  simp

theorem filterMap_vocabularyOf {α : Type} (read : AnnotationUse → Option α)
    (hread : ∀ a, a.word? = none → read a = none) (uses : List AnnotationUse) :
    (vocabularyOf uses).filterMap read = uses.filterMap read := by
  have hword : ∀ a : AnnotationUse,
      (if isVocabulary a.qualifiedName = true then read a else none) = read a := by
    intro a
    split
    · rfl
    · rename_i hforeign
      exact (hread a (AnnotationUse.word?_of_foreign (Bool.eq_false_iff.mpr hforeign))).symm
  simp only [vocabularyOf, List.filterMap_filter, hword]

theorem foldl_vocabularyOf {σ : Type} (step : σ → AnnotationUse → σ)
    (hstep : ∀ s a, a.word? = none → step s a = s) (uses : List AnnotationUse) (s : σ) :
    (vocabularyOf uses).foldl step s = uses.foldl step s := by
  unfold vocabularyOf
  induction uses generalizing s with
  | nil => rfl
  | cons a uses ih =>
    rw [List.filter_cons, List.foldl_cons]
    split
    · rw [List.foldl_cons, ih]
    · rename_i hforeign
      rw [hstep s a (AnnotationUse.word?_of_foreign (Bool.eq_false_iff.mpr hforeign)), ih]

/-- Without foreign annotations a function reads the same and passes nothing on. -/
theorem readFunctionAnnotations_vocabularyOf (uses : List AnnotationUse) :
    readFunctionAnnotations (vocabularyOf uses)
      = { readFunctionAnnotations uses with passthrough := [] } := by
  have hmethods := filterMap_vocabularyOf AnnotationUse.readMethod?
    (fun a ha => by rw [AnnotationUse.readMethod?, ha]) uses
  have hmarks := filterMap_vocabularyOf AnnotationUse.readMark?
    (fun a ha => by rw [AnnotationUse.readMark?, ha]) uses
  have hsettings := foldl_vocabularyOf FunctionSettings.after
    (fun s a ha => by rw [FunctionSettings.after, ha]) uses .default
  simp only [readFunctionAnnotations, hmethods, hmarks, hsettings, passthroughOf_vocabularyOf]

theorem readParameterAnnotations_vocabularyOf (uses : List AnnotationUse) (parameter : String) :
    readParameterAnnotations (vocabularyOf uses) parameter
      = ((readParameterAnnotations uses parameter).1, []) := by
  have hroles := filterMap_vocabularyOf (AnnotationUse.readRole? parameter)
    (fun a ha => by rw [AnnotationUse.readRole?, ha]) uses
  simp only [readParameterAnnotations, hroles, passthroughOf_vocabularyOf]

/-! ### Leaving them out -/

/-- Where foreign annotations are left out. -/
inductive Scope where
  | functions
  /-- Of the parameters of the functions too. -/
  | everywhere
deriving DecidableEq, Repr

/-- What is kept of the annotations of a parameter. -/
def Scope.onParameter {α : Type} (s : Scope) (uses kept : List α) : List α :=
  match s with
  | .functions => uses
  | .everywhere => kept

def ParameterDeclaration.withoutForeign (s : Scope) (p : ParameterDeclaration) :
    ParameterDeclaration :=
  { p with annotations := s.onParameter p.annotations (vocabularyOf p.annotations) }

def FunctionDeclaration.withoutForeign (s : Scope) (f : FunctionDeclaration) :
    FunctionDeclaration :=
  { f with
    annotations := vocabularyOf f.annotations
    parameters := f.parameters.map (ParameterDeclaration.withoutForeign s) }

/-- The declaration without foreign annotations on its functions. -/
def ClassDeclaration.withoutForeign (s : Scope) (c : ClassDeclaration) : ClassDeclaration :=
  { c with functions := c.functions.map (FunctionDeclaration.withoutForeign s) }

def ParameterModel.withoutForeign (s : Scope) (p : ParameterModel) : ParameterModel :=
  { p with passthrough := s.onParameter p.passthrough [] }

def FunctionModel.withoutForeign (s : Scope) (f : FunctionModel) : FunctionModel :=
  { f with
    parameters := f.parameters.map (ParameterModel.withoutForeign s)
    passthrough := [] }

/-- The model without what its functions pass on. -/
def InterfaceModel.withoutForeign (s : Scope) (m : InterfaceModel) : InterfaceModel :=
  { m with functions := m.functions.map (FunctionModel.withoutForeign s) }

def Extraction.withoutForeign (s : Scope) : Extraction → Extraction
  | .ready m => .ready (m.withoutForeign s)
  | .deferred names => .deferred names
  | .rejected => .rejected
  | .skipped => .skipped

/-! ### Work up to what is left out -/

section Alike

variable {α β : Type}

def Ending.map (g : α → β) : Ending α → Ending β
  | .returns a => .returns (g a)
  | .fails f => .fails f
  | .dies f => .dies f

def Conduct.map (g : α → β) (c : Conduct α) : Conduct β :=
  ⟨c.ending.map g, c.happenings⟩

theorem Ending.result_map (g : α → β) (e : Ending α) : (e.map g).result = e.result.map g := by
  cases e with
  | returns a => rfl
  | fails f => rfl
  | dies f => rfl

theorem Ending.settle_map (g : α → β) (e : Ending α) (log : Log) :
    (e.map g).settle log = e.settle log := by
  cases e with
  | returns a => rfl
  | fails f => rfl
  | dies f => rfl

/-- Both do the same in every log, and their results are the same up to what `g` leaves out. -/
def Alike (g : α → β) (w w' : StepM α) : Prop :=
  ∀ log : Log, (w.run.run log).1.map g = (w'.run.run log).1.map g
    ∧ (w.run.run log).2 = (w'.run.run log).2

theorem Alike.of_does {g : α → β} {w w' : StepM α} {c c' : Conduct α} (hw : Does w c)
    (hw' : Does w' c') (h : c.map g = c'.map g) : Alike g w w' := by
  intro log
  have hending : c.ending.map g = c'.ending.map g := congrArg Conduct.ending h
  have hhappenings := congrArg Conduct.happenings h
  change c.happenings = c'.happenings at hhappenings
  rw [hw log, hw' log]
  constructor
  · simp only
    rw [← Ending.result_map, ← Ending.result_map, hending]
  · simp only
    rw [← c.ending.settle_map g, ← c'.ending.settle_map g, hending, hhappenings]

end Alike

/-! ### Extraction -/

section Extraction

variable (s : Scope)

@[simp] theorem ParameterModel.hasRole_withoutForeign (p : ParameterModel) (k : RoleKind) :
    (p.withoutForeign s).hasRole k = p.hasRole k :=
  rfl

theorem ParameterDeclaration.model_withoutForeign (p : ParameterDeclaration) :
    (p.withoutForeign s).model = p.model.withoutForeign s := by
  cases s with
  | functions => rfl
  | everywhere =>
    simp only [model, withoutForeign, Scope.onParameter, readParameterAnnotations_vocabularyOf,
      ParameterModel.withoutForeign]

namespace FunctionDeclaration

theorem modelWith_withoutForeign (f : FunctionDeclaration) (reading : FunctionReading)
    (t : TypeRef) (basePath : String) :
    (f.withoutForeign s).modelWith { reading with passthrough := [] } t basePath
      = (f.modelWith reading t basePath).withoutForeign s := by
  have hparameters : (f.parameters.map (ParameterDeclaration.withoutForeign s)).map
      ParameterDeclaration.model
        = (f.parameters.map ParameterDeclaration.model).map (ParameterModel.withoutForeign s) := by
    rw [List.map_map, List.map_map]
    exact List.map_congr_left fun p _ => p.model_withoutForeign s
  have hurl : ((f.parameters.map ParameterDeclaration.model).map
      (ParameterModel.withoutForeign s)).any (fun p => p.hasRole .url)
        = (f.parameters.map ParameterDeclaration.model).any fun p => p.hasRole .url := by
    simp only [List.any_map, Function.comp_def, ParameterModel.hasRole_withoutForeign]
  simp only [modelWith, withoutForeign, FunctionModel.withoutForeign, hparameters, hurl]
  rfl

theorem problems_withoutForeign (f : FunctionDeclaration) :
    (f.withoutForeign s).problems = f.problems := by
  unfold problems typedProblems withoutForeign
  simp only [readFunctionAnnotations_vocabularyOf]
  rfl

theorem model?_withoutForeign (f : FunctionDeclaration) (basePath : String) :
    (f.withoutForeign s).model? basePath
      = (f.model? basePath).map (FunctionModel.withoutForeign s) := by
  have hreading : readFunctionAnnotations (f.withoutForeign s).annotations
      = { readFunctionAnnotations f.annotations with passthrough := [] } :=
    readFunctionAnnotations_vocabularyOf f.annotations
  have htype : (f.withoutForeign s).returnType = f.returnType := rfl
  unfold model?
  rw [f.problems_withoutForeign s, hreading, htype]
  cases f.returnType with
  | none => rfl
  | some t =>
    simp only
    split
    · rw [f.modelWith_withoutForeign s]
      rfl
    · rfl

theorem unresolved_withoutForeign (f : FunctionDeclaration) (names : List String) :
    (f.withoutForeign s).unresolved names = f.unresolved names := by
  unfold unresolved withoutForeign
  simp only [List.foldl_map]
  rfl

end FunctionDeclaration

namespace ClassDeclaration

variable (c : ClassDeclaration) (factories : List FunctionDeclaration)

theorem isCandidate_withoutForeign : (c.withoutForeign s).isCandidate = c.isCandidate := by
  have huses : (c.withoutForeign s).usesVocabulary = c.usesVocabulary := by
    have hany : ∀ f : FunctionDeclaration,
        (f.withoutForeign s).annotations.any (fun a => isVocabulary a.qualifiedName)
          = f.annotations.any fun a => isVocabulary a.qualifiedName := by
      intro f
      simp only [FunctionDeclaration.withoutForeign, vocabularyOf, List.any_filter, Bool.and_self]
    simp only [usesVocabulary, withoutForeign, List.any_map, Function.comp_def, hany]
  unfold isCandidate
  rw [huses]
  rfl

theorem unresolvedNames_withoutForeign :
    unresolvedNames (c.withoutForeign s) factories = unresolvedNames c factories := by
  simp only [unresolvedNames, withoutForeign, List.foldl_append, List.foldl_map,
    FunctionDeclaration.unresolved_withoutForeign]

theorem resolvedModel_withoutForeign (file : FileRef) :
    (c.withoutForeign s).resolvedModel factories file
      = (c.resolvedModel factories file).withoutForeign s := by
  have hfunctions : ∀ basePath,
      (c.withoutForeign s).functions.filterMap (FunctionDeclaration.model? · basePath)
        = (c.functions.filterMap (FunctionDeclaration.model? · basePath)).map
            (FunctionModel.withoutForeign s) := by
    intro basePath
    simp only [withoutForeign, List.filterMap_map, List.map_filterMap, Function.comp_def,
      FunctionDeclaration.model?_withoutForeign]
  have hoptions : (c.withoutForeign s).resolvedOptions = c.resolvedOptions := rfl
  unfold resolvedModel
  rw [hoptions, hfunctions]
  rfl

theorem reportedProblems_withoutForeign (owner : String) (fs : List FunctionDeclaration) :
    reportedProblems owner (fs.map (FunctionDeclaration.withoutForeign s))
      = reportedProblems owner fs := by
  simp only [reportedProblems, List.flatMap_map, FunctionDeclaration.problems_withoutForeign]
  rfl

theorem resolvedConduct_withoutForeign (file : FileRef) :
    (c.withoutForeign s).resolvedConduct factories file
      = (c.resolvedConduct factories file).map (Extraction.withoutForeign s) := by
  have hsettings : (c.withoutForeign s).settings = c.settings := rfl
  have hproblems : reportedProblems (c.withoutForeign s).qualifiedName (c.withoutForeign s).functions
      = reportedProblems c.qualifiedName c.functions :=
    reportedProblems_withoutForeign s c.qualifiedName c.functions
  have hcount : ((c.resolvedModel factories file).withoutForeign s).functions.length
      = (c.resolvedModel factories file).functions.length :=
    List.length_map _
  unfold resolvedConduct
  simp only [hsettings, hproblems, c.resolvedModel_withoutForeign, hcount]
  split
  · rfl
  · split
    · rfl
    · rfl

/-- Extraction does the same without foreign annotations, and leaves them out of the model. -/
theorem conduct_withoutForeign :
    (c.withoutForeign s).conduct factories
      = (c.conduct factories).map (Extraction.withoutForeign s) := by
  have hfind : (c.withoutForeign s).functions.find? FunctionDeclaration.isExpectOrExternal
      = (c.functions.find? FunctionDeclaration.isExpectOrExternal).map
          (FunctionDeclaration.withoutForeign s) :=
    List.find?_map
  have hcommon : (c.withoutForeign s).commonConduct factories
      = (c.commonConduct factories).map (Extraction.withoutForeign s) := by
    unfold commonConduct
    rw [c.unresolvedNames_withoutForeign s factories]
    have hkind : (c.withoutForeign s).kind = c.kind := rfl
    have hfile : (c.withoutForeign s).file = c.file := rfl
    rw [hkind, hfile]
    split
    · rfl
    · cases c.file with
      | none => rfl
      | some file =>
        cases unresolvedNames c factories with
        | nil => exact c.resolvedConduct_withoutForeign s factories file
        | cons name names => rfl
  have hself : (c.withoutForeign s).isExpectOrExternal = c.isExpectOrExternal := rfl
  unfold conduct
  rw [hself, hfind, hcommon]
  split
  · rfl
  · cases c.functions.find? FunctionDeclaration.isExpectOrExternal with
    | none => rfl
    | some f => rfl

end ClassDeclaration

end Extraction

/-! ### Validation -/

section Validation

variable (s : Scope)

def Context.withoutForeign (c : Context) : Context :=
  ⟨c.model.withoutForeign s, c.options⟩

namespace FunctionModel

variable (f : FunctionModel)

@[simp] theorem hasRole_withoutForeign (k : RoleKind) :
    (f.withoutForeign s).hasRole k = f.hasRole k := by
  simp only [hasRole, withoutForeign, List.any_map, Function.comp_def,
    ParameterModel.hasRole_withoutForeign]

@[simp] theorem parametersWith_withoutForeign (k : RoleKind) :
    (f.withoutForeign s).parametersWith k
      = (f.parametersWith k).map (ParameterModel.withoutForeign s) := by
  simp only [parametersWith, withoutForeign, List.filter_map, Function.comp_def,
    ParameterModel.hasRole_withoutForeign]

@[simp] theorem signature_withoutForeign (className : String) (highlight : Option String) :
    (f.withoutForeign s).signature className highlight = f.signature className highlight := by
  have htexts : (f.parameters.map (ParameterModel.withoutForeign s)).map (parameterText highlight)
      = f.parameters.map (parameterText highlight) := by
    rw [List.map_map]
    rfl
  simp only [signature, withoutForeign, htexts]

/-- What is made of every parameter does not tell what the parameters pass on. -/
theorem flatMap_parameters_withoutForeign {α : Type} {g g' : ParameterModel → List α}
    (h : ∀ p, g' (ParameterModel.withoutForeign s p) = g p) :
    (f.withoutForeign s).parameters.flatMap g' = f.parameters.flatMap g := by
  simp only [withoutForeign, List.flatMap_map, h]

end FunctionModel

namespace Context

variable (c : Context) (f : FunctionModel) (p : ParameterModel)

@[simp] theorem error_withoutForeign (problem : Problem) :
    (c.withoutForeign s).error (f.withoutForeign s) problem = c.error f problem := by
  simp only [error, onFunction, f.signature_withoutForeign]
  rfl

@[simp] theorem warning_withoutForeign (problem : Problem) :
    (c.withoutForeign s).warning (f.withoutForeign s) problem = c.warning f problem := by
  simp only [warning, onFunction, f.signature_withoutForeign]
  rfl

@[simp] theorem parameterError_withoutForeign (problem : Problem) :
    (c.withoutForeign s).parameterError (f.withoutForeign s) (p.withoutForeign s) problem
      = c.parameterError f p problem := by
  simp only [parameterError, onFunction, f.signature_withoutForeign]
  rfl

@[simp] theorem parameterWarning_withoutForeign (problem : Problem) :
    (c.withoutForeign s).parameterWarning (f.withoutForeign s) (p.withoutForeign s) problem
      = c.parameterWarning f p problem := by
  simp only [parameterWarning, onFunction, f.signature_withoutForeign]
  rfl

/-- What is found about every generated function does not tell what the functions pass on. -/
theorem flatMap_functions_withoutForeign {α : Type} {g g' : FunctionModel → List α}
    (h : ∀ f, g' (FunctionModel.withoutForeign s f) = g f) :
    (c.withoutForeign s).functions.flatMap g' = c.functions.flatMap g := by
  have hfunctions : (c.withoutForeign s).functions
      = c.functions.map (FunctionModel.withoutForeign s) :=
    List.filter_map
  simp only [hfunctions, List.flatMap_map, h]

end Context

namespace Validation

variable (c : Context) (f : FunctionModel) (p : ParameterModel)

theorem checkMapRole_withoutForeign (kind : RoleKind) (stringValues : Bool) (problem : Problem) :
    checkMapRole (c.withoutForeign s) (f.withoutForeign s) kind stringValues problem
        (p.withoutForeign s)
      = checkMapRole c f kind stringValues problem p := by
  simp only [checkMapRole, Context.parameterError_withoutForeign]
  rfl

theorem classLevel_withoutForeign : classLevel (c.withoutForeign s) = classLevel c := by
  have hparameter : ∀ f p, parameterFindings (c.withoutForeign s) (FunctionModel.withoutForeign s f)
      (ParameterModel.withoutForeign s p) = parameterFindings c f p := by
    intro f p
    simp only [parameterFindings, Context.parameterError_withoutForeign,
      Context.parameterWarning_withoutForeign]
    rfl
  have hfunction : ∀ f, functionFindings (c.withoutForeign s) (FunctionModel.withoutForeign s f)
      = functionFindings c f := by
    intro f
    have hbuilders : (f.withoutForeign s).builderParameters.length = f.builderParameters.length := by
      simp only [FunctionModel.builderParameters, FunctionModel.withoutForeign, List.filter_map,
        List.length_map]
      rfl
    simp only [functionFindings, hbuilders, Context.error_withoutForeign,
      f.flatMap_parameters_withoutForeign s (hparameter f)]
    rfl
  have hignored : (c.withoutForeign s).model.functions.flatMap (ignoredFindings (c.withoutForeign s))
      = c.model.functions.flatMap (ignoredFindings c) := by
    have hone : ∀ f, ignoredFindings (c.withoutForeign s) (FunctionModel.withoutForeign s f)
        = ignoredFindings c f := by
      intro f
      simp only [ignoredFindings, Context.error_withoutForeign]
      rfl
    simp only [Context.withoutForeign, InterfaceModel.withoutForeign, List.flatMap_map]
    exact congrArg (c.model.functions.flatMap ·) (funext hone)
  have hsettings : settingsFindings (c.withoutForeign s) = settingsFindings c :=
    settingsFindings_withFunctions c.model _ c.options c.options
  unfold classLevel
  rw [hsettings, hignored, c.flatMap_functions_withoutForeign s hfunction]

theorem typeVariables_withoutForeign : typeVariables (c.withoutForeign s) = typeVariables c := by
  apply c.flatMap_functions_withoutForeign s
  intro f
  have hparameters : (f.withoutForeign s).parameters.flatMap (fun p => whenever p.type.hasVariable
        ((c.withoutForeign s).parameterError (f.withoutForeign s) p (.typeVariable p.type.display)))
      = f.parameters.flatMap fun p => whenever p.type.hasVariable
        (c.parameterError f p (.typeVariable p.type.display)) := by
    apply f.flatMap_parameters_withoutForeign s
    intro p
    rw [c.parameterError_withoutForeign s]
    rfl
  simp only [typeVariableFindings, hparameters, Context.error_withoutForeign]
  rfl

theorem returnTypes_withoutForeign : returnTypes (c.withoutForeign s) = returnTypes c := by
  apply c.flatMap_functions_withoutForeign s
  intro f
  simp only [Context.error_withoutForeign]
  rfl

theorem headReturnTypes_withoutForeign :
    headReturnTypes (c.withoutForeign s) = headReturnTypes c := by
  apply c.flatMap_functions_withoutForeign s
  intro f
  simp only [Context.error_withoutForeign]
  rfl

theorem paths_withoutForeign : paths (c.withoutForeign s) = paths c := by
  apply c.flatMap_functions_withoutForeign s
  intro f
  have hcount : ∀ placeholder, bindingCount (f.withoutForeign s) placeholder
      = bindingCount f placeholder := by
    intro placeholder
    simp only [bindingCount, FunctionModel.withoutForeign, List.filter_map, List.length_map]
    rfl
  have hplaceholder : placeholderFindings (c.withoutForeign s) (f.withoutForeign s)
      = placeholderFindings c f := by
    funext placeholder
    simp only [placeholderFindings, hcount, Context.error_withoutForeign]
    rfl
  have hparameter : ∀ p, pathParameterFindings (c.withoutForeign s) (f.withoutForeign s)
      (ParameterModel.withoutForeign s p) = pathParameterFindings c f p := by
    intro p
    simp only [pathParameterFindings, Context.parameterError_withoutForeign]
    rfl
  simp only [pathFindings, boundPathFindings, hplaceholder, Context.error_withoutForeign,
    FunctionModel.hasRole_withoutForeign, f.flatMap_parameters_withoutForeign s hparameter]
  rfl

theorem queries_withoutForeign : queries (c.withoutForeign s) = queries c := by
  apply c.flatMap_functions_withoutForeign s
  intro f
  apply f.flatMap_parameters_withoutForeign s
  exact fun p => checkMapRole_withoutForeign s c f p .queryMap false .queryMapType

theorem cookies_withoutForeign : cookies (c.withoutForeign s) = cookies c := by
  apply c.flatMap_functions_withoutForeign s
  intro f
  apply f.flatMap_parameters_withoutForeign s
  intro p
  rw [c.parameterWarning_withoutForeign s]
  rfl

theorem urls_withoutForeign : urls (c.withoutForeign s) = urls c := by
  apply c.flatMap_functions_withoutForeign s
  intro f
  have hslashes : syntaxFindings (c.withoutForeign s) (f.withoutForeign s) = syntaxFindings c f := by
    simp only [syntaxFindings, FunctionModel.hasRole_withoutForeign, Context.error_withoutForeign,
      Context.warning_withoutForeign]
    rfl
  have hurl : urlParameterFindings (c.withoutForeign s) (f.withoutForeign s)
      = urlParameterFindings c f := by
    unfold urlParameterFindings
    rw [f.parametersWith_withoutForeign s]
    cases f.parametersWith .url with
    | nil => rfl
    | cons p ps =>
      simp only [List.map_cons, firstUrlFindings, List.isEmpty_map, Context.error_withoutForeign,
        Context.parameterError_withoutForeign, FunctionModel.hasRole_withoutForeign]
      rfl
  have hfragment : fragmentFindings (c.withoutForeign s) (f.withoutForeign s)
      = fragmentFindings c f := by
    simp only [fragmentFindings, FunctionModel.parametersWith_withoutForeign, List.length_map,
      Context.error_withoutForeign]
    rfl
  rw [hslashes, hurl, hfragment]

theorem headers_withoutForeign : headers (c.withoutForeign s) = headers c := by
  apply c.flatMap_functions_withoutForeign s
  intro f
  have hentries : entryFindings (c.withoutForeign s) (f.withoutForeign s) = entryFindings c f := by
    funext raw
    simp only [entryFindings, Context.error_withoutForeign]
  have hparameter : ∀ p, headerParameterFindings (c.withoutForeign s) (f.withoutForeign s)
      (ParameterModel.withoutForeign s p) = headerParameterFindings c f p := by
    intro p
    simp only [headerParameterFindings, Context.parameterError_withoutForeign,
      checkMapRole_withoutForeign]
    rfl
  have hcount : contentTypeCount (f.withoutForeign s) = contentTypeCount f := by
    unfold contentTypeCount
    rw [f.flatMap_parameters_withoutForeign s (g := fun p => p.roles) fun p => rfl]
    rfl
  have hcontent : contentTypeFindings (c.withoutForeign s) (f.withoutForeign s)
      = contentTypeFindings c f := by
    simp only [contentTypeFindings, hcount, FunctionModel.isFormUrl, FunctionModel.isMultipart,
      FunctionModel.hasBodyParameter, FunctionModel.hasRole_withoutForeign,
      Context.error_withoutForeign, Context.warning_withoutForeign]
    rfl
  rw [hentries, hcontent, f.flatMap_parameters_withoutForeign s hparameter]
  rfl

theorem bodies_withoutForeign : bodies (c.withoutForeign s) = bodies c := by
  apply c.flatMap_functions_withoutForeign s
  intro f
  simp only [bodyFindings, bodyStyles, FunctionModel.hasBodyParameter, FunctionModel.isFormUrl,
    FunctionModel.isMultipart, FunctionModel.hasRole_withoutForeign,
    FunctionModel.parametersWith_withoutForeign, List.length_map, List.any_map,
    Context.error_withoutForeign, Context.warning_withoutForeign]
  rfl

theorem encoded_withoutForeign (style : EncodedStyle) :
    (c.withoutForeign s).functions.flatMap (encodedFindings style (c.withoutForeign s))
      = c.functions.flatMap (encodedFindings style c) := by
  apply c.flatMap_functions_withoutForeign s
  intro f
  have hmaps := f.flatMap_parameters_withoutForeign s fun p =>
    checkMapRole_withoutForeign s c f p style.map false style.mapType
  simp only [encodedFindings, FunctionModel.hasRole_withoutForeign, Context.error_withoutForeign,
    Context.warning_withoutForeign, hmaps]
  rfl

end Validation

/-- No check looks at what functions and parameters pass on. -/
theorem Check.findings_withoutForeign (check : Check) (c : Context) :
    check.findings (c.withoutForeign s) = check.findings c := by
  cases check with
  | classLevel => exact Validation.classLevel_withoutForeign s c
  | factories => rfl
  | typeVariables => exact Validation.typeVariables_withoutForeign s c
  | returnTypes => exact Validation.returnTypes_withoutForeign s c
  | paths => exact Validation.paths_withoutForeign s c
  | queries => exact Validation.queries_withoutForeign s c
  | urls => exact Validation.urls_withoutForeign s c
  | headReturnTypes => exact Validation.headReturnTypes_withoutForeign s c
  | headers => exact Validation.headers_withoutForeign s c
  | bodies => exact Validation.bodies_withoutForeign s c
  | formBodies => exact Validation.encoded_withoutForeign s c _
  | multipartBodies => exact Validation.encoded_withoutForeign s c _
  | cookies => exact Validation.cookies_withoutForeign s c

variable {s}

theorem Check.findings_eq {m m' : InterfaceModel} (h : m.withoutForeign s = m'.withoutForeign s)
    (o : Options) (check : Check) : check.findings ⟨m, o⟩ = check.findings ⟨m', o⟩ := by
  rw [← check.findings_withoutForeign s ⟨m, o⟩, ← check.findings_withoutForeign s ⟨m', o⟩]
  exact congrArg (fun m => check.findings ⟨m, o⟩) h

/-- Models that differ in what is passed on are checked alike. -/
theorem validate_alike {m m' : InterfaceModel} (h : m.withoutForeign s = m'.withoutForeign s)
    (checks : List Check) (o : Options) :
    Alike (Option.map (InterfaceModel.withoutForeign s)) (validate checks m o)
      (validate checks m' o) := by
  refine Alike.of_does (validate_does checks m o) (validate_does checks m' o) ?_
  have hfindings := Check.findings_eq h o
  have herrors : errorsOf ⟨m, o⟩ checks = errorsOf ⟨m', o⟩ checks := by
    simp only [errorsOf, hfindings]
  have hhappenings : Check.happening ⟨m, o⟩ = Check.happening ⟨m', o⟩ := by
    funext check
    simp only [Check.happening, hfindings]
  unfold validationConduct
  split
  · rfl
  · rw [herrors, hhappenings]
    split
    · exact congrArg (fun m => (⟨.returns (some m), _⟩ : Conduct _)) h
    · rfl

/-- Declarations that differ in foreign annotations are extracted alike. -/
theorem ClassDeclaration.extract_alike {c d : ClassDeclaration}
    (h : c.withoutForeign s = d.withoutForeign s) (factories : List FunctionDeclaration) :
    Alike (Extraction.withoutForeign s) (c.extract factories) (d.extract factories) := by
  refine Alike.of_does (c.extract_does factories) (d.extract_does factories) ?_
  rw [← c.conduct_withoutForeign s, ← d.conduct_withoutForeign s, h]

end Validation

end ClientGen
