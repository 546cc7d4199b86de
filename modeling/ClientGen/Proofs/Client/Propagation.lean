/-
  ClientGen/Proofs/Client/Propagation.lean
  ========================================
  **Which foreign annotations reach the generated class.**

  Those of a function are copied to its override when the interface and the function both
  propagate annotations; when the interface does not, generation does not look at them
  (`generate_withoutForeign`).  Those of a parameter are copied in any case
  (`writeOverride_propagates`), so switching propagation off does not keep them out of the
  generated files (`parameters_propagate`).
-/
import ClientGen.Proofs.Client.Compliance
import ClientGen.Proofs.Model.Foreign
import ClientGen.Proofs.Request.PathWriting

namespace ClientGen

open ClientGen.Client

/-! ### Without propagation -/

section Off

variable {m : InterfaceModel}

theorem FunctionModel.withoutForeign_functions (f : FunctionModel) :
    f.withoutForeign .functions = { f with passthrough := [] } := by
  have hparameters : f.parameters.map (ParameterModel.withoutForeign .functions) = f.parameters :=
    List.map_id _
  rw [withoutForeign, hparameters]

theorem planOverride_withoutPassthrough (f : FunctionModel) :
    planOverride { f with passthrough := [] } = planOverride f := by
  have hpath : Request.bindPath { f with passthrough := [] } = Request.bindPath f := by
    refine Request.bindPath_congr rfl fun part => ?_
    cases part <;> rfl
  unfold planOverride
  rw [hpath]
  rfl

/-- An interface that propagates nothing is written without a look at what its functions
    pass on. -/
theorem generateOverride_withoutForeign (hoff : m.options.propagateAnnotations = false)
    (names : ImportTable) (f : FunctionModel) :
    generateOverride (m.withoutForeign .functions) names (f.withoutForeign .functions)
      = generateOverride m names f := by
  rw [f.withoutForeign_functions]
  have hoff' : (m.withoutForeign .functions).options.propagateAnnotations = false := hoff
  have hwrite : ∀ plan, writeOverride (m.withoutForeign .functions) { f with passthrough := [] } plan
      = writeOverride m f plan := by
    intro plan
    simp only [writeOverride, writeOverrideAnnotations, hoff, hoff', Bool.false_and]
    rfl
  unfold generateOverride
  rw [planOverride_withoutPassthrough]
  simp only [hwrite]
  rfl

theorem generateOverrides_withoutForeign (hoff : m.options.propagateAnnotations = false)
    (names : ImportTable) (fs : List FunctionModel) :
    generateOverrides (m.withoutForeign .functions) names
        (fs.map (FunctionModel.withoutForeign .functions))
      = generateOverrides m names fs := by
  induction fs generalizing names with
  | nil => rfl
  | cons f fs ih =>
    simp only [List.map_cons, generateOverrides, generateOverride_withoutForeign hoff, ih]

theorem generate_withoutForeign (hoff : m.options.propagateAnnotations = false) (o : Options)
    (registry : FactoryRegistry) :
    generate (m.withoutForeign .functions) o registry = generate m o registry := by
  have hclass : ∀ names, generateClass (m.withoutForeign .functions) names
      = generateClass m names := by
    intro names
    have hfunctions : (m.withoutForeign .functions).generatedFunctions
        = m.generatedFunctions.map (FunctionModel.withoutForeign .functions) :=
      List.filter_map
    unfold generateClass
    simp only [hfunctions, generateOverrides_withoutForeign hoff]
    rfl
  unfold generate
  simp only [hclass]
  rfl

end Off

/-! ### Copies -/

/-- The texts are the annotations in order, as the finished file writes them. -/
def Copied (final : ImportTable) (uses : List AnnotationUse) (texts : List String) : Prop :=
  List.Forall₂
    (fun use text => StateT.run (writeMarkedUse use) final = (text, final)) uses texts

/-- The parameter of an override carries the foreign annotations of the declared one. -/
structure Carries (final : ImportTable) (p : ParameterDeclaration) (q : Code.Param) : Prop where
  name : q.name = p.name
  annotations : Copied final (passthroughOf p.annotations) q.annotations

/-- The foreign annotations that reach the override of a function. -/
def FunctionDeclaration.propagated (d : FunctionDeclaration) (o : ClassOptions) :
    List AnnotationUse :=
  if o.propagateAnnotations
      && (readFunctionAnnotations d.annotations).settings.propagateAnnotations then
    passthroughOf d.annotations
  else []

/-- The annotations of an override: what the settings let through of its declaration, and then
    what the settings add. -/
def Annotated (o : ClassOptions) (final : ImportTable) (d : FunctionDeclaration)
    (texts : List String) : Prop :=
  ∃ copied markers optIn, texts = copied ++ markers ++ optIn
    ∧ Copied final (d.propagated o) copied
    ∧ List.Forall₂ (fun name text => (writeMarker name).run final = (text, final))
        (readFunctionAnnotations d.annotations).settings.annotations markers
    ∧ (writeOptIn (o.optInAnnotations
        ++ (readFunctionAnnotations d.annotations).settings.optInAnnotations)).run final
        = (optIn, final)

/-- An override with the annotations of its declaration. -/
structure Propagates (o : ClassOptions) (final : ImportTable) (d : FunctionDeclaration)
    (g : Code.Function) : Prop where
  name : g.name = d.name
  annotations : Annotated o final d g.annotations
  params : List.Forall₂ (Carries final) d.parameters g.params

theorem copied_lasts (uses : List AnnotationUse) :
    Lasts (uses.mapM writeMarkedUse) fun final => Copied final uses :=
  Lasts.mapM fun use _ => writeMarkedUse_stable use

theorem writeOverrideParam_carries (p : ParameterDeclaration) :
    Lasts (writeOverrideParam p.model) fun final => Carries final p := by
  unfold writeOverrideParam
  refine (Lasts.of_grows (Grows.type p.model.type)).bind fun type => ?_
  refine (copied_lasts p.model.passthrough).bind fun annotations => ?_
  exact Lasts.pure fun final hcopied _ => ⟨rfl, hcopied⟩

section Override

variable (m : InterfaceModel) (d : FunctionDeclaration) (t : TypeRef) (basePath : String)

/-- Propagation is asked for before the annotations of a function are copied. -/
theorem writeOverrideAnnotations_annotated :
    Lasts (writeOverrideAnnotations m
        (d.modelWith (readFunctionAnnotations d.annotations) t basePath))
      fun final => Annotated m.options final d := by
  have hadded : ∀ copied, Lasts (do
        let markers ← (readFunctionAnnotations d.annotations).settings.annotations.mapM writeMarker
        let optIn ← writeOptIn (m.options.optInAnnotations
          ++ (readFunctionAnnotations d.annotations).settings.optInAnnotations)
        return copied ++ markers ++ optIn)
      fun final texts => Copied final (d.propagated m.options) copied →
        Annotated m.options final d texts := by
    intro copied
    refine Lasts.bind (Lasts.mapM fun name _ => writeMarker_stable name) fun markers => ?_
    refine Lasts.bind (writeOptIn_stable _) fun optIn => ?_
    apply Lasts.pure
    intro final hoptIn hmarkers hcopied
    exact ⟨copied, markers, optIn, rfl, hcopied, hmarkers, hoptIn⟩
  unfold writeOverrideAnnotations
  split
  · rename_i hon
    have hall : d.propagated m.options = passthroughOf d.annotations := if_pos hon
    refine (copied_lasts (passthroughOf d.annotations)).bind fun copied => ?_
    refine (hadded copied).imp fun final texts hannotated hcopied => hannotated ?_
    rw [hall]
    exact hcopied
  · rename_i hoff
    have hnone : d.propagated m.options = [] := if_neg hoff
    refine (hadded []).imp fun final texts hannotated => hannotated ?_
    rw [hnone]
    exact .nil

/-- The annotations of parameters are copied without asking. -/
theorem writeOverride_propagates (plan : OverridePlan) :
    Lasts (writeOverride m (d.modelWith (readFunctionAnnotations d.annotations) t basePath) plan)
      fun final => Propagates m.options final d := by
  have hparams : Lasts ((d.parameters.map ParameterDeclaration.model).mapM writeOverrideParam)
      fun final => List.Forall₂ (Carries final) d.parameters := by
    rw [List.mapM_map]
    exact Lasts.mapM fun p _ => writeOverrideParam_carries p
  unfold writeOverride
  refine (writeOverrideAnnotations_annotated m d t basePath).bind fun annotations => ?_
  refine hparams.bind fun params => ?_
  refine (Lasts.of_grows (Grows.type t)).bind fun returnType => ?_
  refine (Lasts.of_grows (writeOverrideBody_grows m _ plan)).bind fun body => ?_
  apply Lasts.pure
  intro final _ _ hparams hannotations
  exact ⟨rfl, hannotations, hparams⟩

end Override

/-! ### Declarations -/

section Declarations

variable {c d : ClassDeclaration} {factories : List FunctionDeclaration} {m m' : InterfaceModel}

/-- Declarations that differ in foreign annotations have models that differ in what is passed
    on. -/
theorem ClassDeclaration.model_eq {s : Scope} (h : c.withoutForeign s = d.withoutForeign s)
    (hc : Yields (c.extract factories) (.ready m)) (hd : Yields (d.extract factories) (.ready m')) :
    m.withoutForeign s = m'.withoutForeign s := by
  obtain ⟨hresult, -⟩ := extract_alike h factories (.opened "")
  obtain ⟨log, hrun⟩ := hc.run (.opened "")
  obtain ⟨log', hrun'⟩ := hd.run (.opened "")
  rw [hrun, hrun'] at hresult
  simpa [Except.map, Extraction.withoutForeign] using hresult

theorem ClassDeclaration.exists_resolvedModel (hc : Yields (c.extract factories) (.ready m)) :
    ∃ file, (∀ f ∈ c.functions, f.problems = []) ∧ m = c.resolvedModel factories file := by
  obtain ⟨_, hrun⟩ := hc.run (.opened "")
  obtain ⟨file, -, hclean, hm⟩ := eq_resolvedModel hrun
  exact ⟨file, hclean, hm⟩

/-- The first file of an accepted declaration holds the only class, and its overrides carry the
    foreign annotations of the abstract functions: those of the functions themselves as far as
    they are propagated, and those of the parameters. -/
def WritesForeign (c : ClassDeclaration) (o : ClassOptions) (files : List SourceFile) : Prop :=
  ∃ main others cls final, files = main :: others ∧ main.file.classes = [cls]
    ∧ final.package = main.file.package ∧ final.lines = main.file.imports
    ∧ List.Forall₂ (Propagates o final)
        (c.functions.filter fun d => d.hasModifier .abstractMember) cls.functions

theorem writesForeign_of_generate {o : Options} {registry registry' : FactoryRegistry}
    {files : List SourceFile} {log log' : Log} (hc : Yields (c.extract factories) (.ready m))
    (haccepted : Accepted Check.all m o)
    (hrun : (generate m o registry).run.run log = (.ok (files, registry'), log')) :
    WritesForeign c m.options files := by
  obtain ⟨file, hclean, rfl⟩ := ClassDeclaration.exists_resolvedModel hc
  have hfunctions := generatedFunctions_isModelOf hclean haccepted
  obtain ⟨main, others, cls, final, hfiles, hclasses, -, -, hpackage, hlines, hoverrides⟩ :=
    generate_writes (P := fun final => Propagates _ final) _ (fun d f plan hf _ => by
      obtain ⟨t, -, rfl⟩ := hf.model
      exact writeOverride_propagates _ d t _ plan) hfunctions hrun
  exact ⟨main, others, cls, final, hfiles, hclasses, hpackage, hlines, hoverrides⟩

theorem ClassDeclaration.propagateAnnotations_model (hc : Yields (c.extract factories) (.ready m)) :
    m.options.propagateAnnotations = c.settings.propagateAnnotations := by
  obtain ⟨file, -, rfl⟩ := exists_resolvedModel hc
  rfl

/-- Declarations that differ in the foreign annotations of their functions and parameters are
    looked at, extracted and checked alike.  When their interface propagates nothing and only
    the annotations of functions differ, they are generated alike.  In any case the overrides of
    an accepted declaration carry the annotations of parameters, and those of functions as far
    as the settings let them through. -/
theorem foreign_propagation (h : c.withoutForeign .everywhere = d.withoutForeign .everywhere)
    (factories : List FunctionDeclaration) :
    c.isCandidate = d.isCandidate
      ∧ Alike (Extraction.withoutForeign .everywhere) (c.extract factories) (d.extract factories)
      ∧ ∀ m m', Yields (c.extract factories) (.ready m) → Yields (d.extract factories) (.ready m') →
        (∀ checks o, Alike (Option.map (InterfaceModel.withoutForeign .everywhere))
          (validate checks m o) (validate checks m' o))
        ∧ (c.settings.propagateAnnotations = false →
          c.withoutForeign .functions = d.withoutForeign .functions →
          ∀ o registry, generate m o registry = generate m' o registry)
        ∧ ∀ o registry files registry' log log', Accepted Check.all m o →
          (generate m o registry).run.run log = (.ok (files, registry'), log') →
          WritesForeign c m.options files := by
  refine ⟨?_, ClassDeclaration.extract_alike h factories, fun m m' hc hd => ⟨?_, ?_, ?_⟩⟩
  · rw [← c.isCandidate_withoutForeign .everywhere, h, d.isCandidate_withoutForeign]
  · exact validate_alike (ClassDeclaration.model_eq h hc hd)
  · intro hoff hfunctions o registry
    have hmodels := ClassDeclaration.model_eq hfunctions hc hd
    have hcoff : m.options.propagateAnnotations = false :=
      (ClassDeclaration.propagateAnnotations_model hc).trans hoff
    have hdoff : m'.options.propagateAnnotations = false :=
      (congrArg (fun m => m.options.propagateAnnotations) hmodels).symm.trans hcoff
    rw [← generate_withoutForeign hcoff o registry, hmodels, generate_withoutForeign hdoff]
  · intro o registry files registry' log log' haccepted hrun
    exact writesForeign_of_generate hc haccepted hrun

end Declarations

/-! ### An interface that propagates nothing -/

/-- An interface that propagates nothing, with one function that searches by a parameter; more
    annotations stand on both. -/
def ClassDeclaration.reserved (onFunction onParameter : List AnnotationUse) : ClassDeclaration :=
  { ClassDeclaration.holding "Users" [
      { FunctionDeclaration.getting "users" [
          ⟨"name", .named TypeName.string, false, .named "Query" :: onParameter⟩]
          (.named TypeName.string) with
        annotations := ⟨"GET", [("value", .string "users")]⟩ :: onFunction }] with
    annotations := [⟨"KtorGen", [("propagateAnnotations", .bool false)]⟩] }

def InterfaceModel.reserved (onFunction onParameter : List AnnotationUse) : InterfaceModel :=
  (ClassDeclaration.reserved onFunction onParameter).resolvedModel [] ⟨"Users.kt", []⟩

def traced : AnnotationUse :=
  .named "demo.Traced"

theorem ClassDeclaration.reserved_yields {onFunction onParameter : List AnnotationUse}
    (hready : (ClassDeclaration.reserved onFunction onParameter).isReady [] = true) :
    Yields ((ClassDeclaration.reserved onFunction onParameter).extract [])
      (.ready (InterfaceModel.reserved onFunction onParameter)) := by
  obtain ⟨_, hrun⟩ := extract_of_isReady rfl hready (.opened "")
  exact Steady.yields ⟨_, extract_does _ []⟩ hrun

/-- An annotation on a function makes no difference, and the one on the parameter is written. -/
theorem foreign_propagation_of_traced :
    (ClassDeclaration.reserved [traced] [traced]).withoutForeign .everywhere
        = (ClassDeclaration.reserved [] [traced]).withoutForeign .everywhere
      ∧ generate (.reserved [traced] [traced]) .default .empty
          = generate (.reserved [] [traced]) .default .empty
      ∧ ∃ files registry' log',
          (generate (.reserved [traced] [traced]) .default .empty).run.run (.opened "")
              = (.ok (files, registry'), log')
            ∧ WritesForeign (.reserved [traced] [traced])
                (InterfaceModel.reserved [traced] [traced]).options files := by
  have hsame : (ClassDeclaration.reserved [traced] [traced]).withoutForeign .everywhere
      = (ClassDeclaration.reserved [] [traced]).withoutForeign .everywhere := by
    rfl
  have hfunctions : (ClassDeclaration.reserved [traced] [traced]).withoutForeign .functions
      = (ClassDeclaration.reserved [] [traced]).withoutForeign .functions := by
    rfl
  have haccepted : Accepted Check.all (.reserved [traced] [traced]) .default :=
    errorsOf_eq_zero.mp (by decide +kernel)
  have hgenerated : ((generate (.reserved [traced] [traced]) .default .empty).run.run
      (.opened "")).1.toOption.isSome = true := by
    decide +kernel
  obtain ⟨-, -, hmodels⟩ := foreign_propagation hsame []
  obtain ⟨-, hoff, hwrites⟩ := hmodels _ _
    (ClassDeclaration.reserved_yields (by decide +kernel))
    (ClassDeclaration.reserved_yields (by decide +kernel))
  refine ⟨hsame, hoff (by decide +kernel) hfunctions .default .empty, ?_⟩
  cases hrun : (generate (.reserved [traced] [traced]) .default .empty).run.run (.opened "") with
  | mk result log' =>
    rw [hrun] at hgenerated
    cases result with
    | error f => cases hgenerated
    | ok generated =>
      obtain ⟨files, registry'⟩ := generated
      exact ⟨files, registry', log', rfl, hwrites .default .empty _ _ _ _ haccepted hrun⟩

def InterfaceModel.contents (m : InterfaceModel) (o : Options) (registry : FactoryRegistry) :
    Option (List String) :=
  ((generate m o registry).run.run (.opened "")).1.toOption.map fun r =>
    r.1.map SourceFile.content

/-- An annotation on a parameter is written by an interface that propagates nothing. -/
theorem parameters_propagate : ¬ ∀ (c d : ClassDeclaration) (factories : List FunctionDeclaration)
    (m m' : InterfaceModel) (o : Options) (registry : FactoryRegistry),
    c.settings.propagateAnnotations = false →
      c.withoutForeign .everywhere = d.withoutForeign .everywhere →
      Yields (c.extract factories) (.ready m) → Yields (d.extract factories) (.ready m') →
      Accepted Check.all m o → m.contents o registry = m'.contents o registry := by
  intro hall
  have hsame : (ClassDeclaration.reserved [] [traced]).withoutForeign .everywhere
      = (ClassDeclaration.reserved [] []).withoutForeign .everywhere := by
    rfl
  have hequal := hall _ _ [] _ _ .default .empty (by decide +kernel) hsame
    (ClassDeclaration.reserved_yields (by decide +kernel))
    (ClassDeclaration.reserved_yields (by decide +kernel))
    (errorsOf_eq_zero.mp (by decide +kernel))
  revert hequal
  decide +kernel

end ClientGen
