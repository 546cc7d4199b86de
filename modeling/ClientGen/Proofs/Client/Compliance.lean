/-
  ClientGen/Proofs/Client/Compliance.lean
  =======================================
  **The generated class implements its interface.**

  Extraction keeps every function, the checks let no abstract function be left out, and
  generation writes one override for each function that is left; so the functions of the
  generated class follow the abstract functions of the declaration one by one.  The types
  of an override are written with the names of its file as they are in the end, and these
  are the names that the file imports.
-/
import ClientGen.Proofs.Client.Places
import ClientGen.Proofs.Model.Extraction
import ClientGen.Proofs.Validation.Checked

namespace ClientGen

open ClientGen.Client

/-! ### Overrides -/

/-- The parameter is the declared one, in a file with these names. -/
structure SameParam (final : ImportTable) (p : ParameterDeclaration) (q : Code.Param) : Prop where
  name : q.name = p.name
  isVararg : q.isVararg = p.isVararg
  property : q.property = none
  type : Rendered final p.type q.type

/-- The function overrides the declared one, in a file with these names. -/
structure Overrides (final : ImportTable) (d : FunctionDeclaration) (g : Code.Function) : Prop where
  name : g.name = d.name
  modifiers : g.modifiers = "override" :: if d.hasModifier .suspending then ["suspend"] else []
  receiver : g.receiver = none
  params : List.Forall₂ (SameParam final) d.parameters g.params
  returnType : ∃ t text, d.returnType = some t ∧ g.returnType = some text ∧ Rendered final t text

section Writing

variable (m : InterfaceModel)

theorem writeOverrideParam_lasts (p : ParameterDeclaration) :
    Lasts (writeOverrideParam p.model) fun final => SameParam final p := by
  unfold writeOverrideParam
  refine (writeType_rendered p.model.type).bind fun type => ?_
  refine (Lasts.of_grows (Grows.mapM _ writeMarkedUse_grows)).bind fun annotations => ?_
  exact Lasts.pure fun final _ htype => ⟨rfl, rfl, rfl, htype⟩

/-- An override of the model of a declared function overrides that function. -/
theorem writeOverride_lasts {d : FunctionDeclaration} {t : TypeRef} (ht : d.returnType = some t)
    (reading : FunctionReading) (basePath : String) (plan : OverridePlan) :
    Lasts (writeOverride m (d.modelWith reading t basePath) plan) fun final =>
      Overrides final d := by
  have hparams : Lasts ((d.parameters.map ParameterDeclaration.model).mapM writeOverrideParam)
      fun final => List.Forall₂ (SameParam final) d.parameters := by
    rw [List.mapM_map]
    exact Lasts.mapM fun p _ => writeOverrideParam_lasts p
  unfold writeOverride
  refine (Lasts.of_grows (writeOverrideAnnotations_grows m _)).bind fun annotations => ?_
  refine hparams.bind fun params => ?_
  refine (writeType_rendered t).bind fun returnType => ?_
  refine (Lasts.of_grows (writeOverrideBody_grows m _ plan)).bind fun body => ?_
  apply Lasts.pure
  intro final _ hreturn hparams _
  exact ⟨rfl, rfl, rfl, hparams, t, returnType, ht, rfl, hreturn⟩

end Writing

/-! ### Extracted functions -/

/-- The model is that of the declared function, and it is generated exactly when the
    function is abstract. -/
structure IsModelOf (basePath : String) (d : FunctionDeclaration) (f : FunctionModel) : Prop where
  model : ∃ t, d.returnType = some t
    ∧ f = d.modelWith (readFunctionAnnotations d.annotations) t basePath
  generate : f.generate = d.hasModifier .abstractMember

theorem returnType_of_problems {d : FunctionDeclaration} (h : d.problems = []) :
    ∃ t, d.returnType = some t := by
  cases ht : d.returnType with
  | some t => exact ⟨t, rfl⟩
  | none => simp [FunctionDeclaration.problems, FunctionDeclaration.typedProblems, ht] at h

theorem model?_of_problems {d : FunctionDeclaration} {t : TypeRef} (ht : d.returnType = some t)
    (h : d.problems = []) (basePath : String) :
    d.model? basePath
      = some (d.modelWith (readFunctionAnnotations d.annotations) t basePath) := by
  simp [FunctionDeclaration.model?, ht, h]

/-- No function is lost when none has a problem. -/
theorem forall₂_isModelOf (basePath : String) {ds : List FunctionDeclaration}
    (hclean : ∀ d ∈ ds, d.problems = [])
    (hgenerate : ∀ f ∈ ds.filterMap (FunctionDeclaration.model? · basePath),
      f.isAbstract = true → f.generate = true) :
    List.Forall₂ (IsModelOf basePath) ds
      (ds.filterMap (FunctionDeclaration.model? · basePath)) := by
  induction ds with
  | nil => exact .nil
  | cons d ds ih =>
    obtain ⟨hd, hds⟩ := List.forall_mem_cons.mp hclean
    obtain ⟨t, ht⟩ := returnType_of_problems hd
    have hmodel := model?_of_problems ht hd basePath
    have hcons := List.filterMap_cons_some (f := (FunctionDeclaration.model? · basePath))
      (l := ds) hmodel
    rw [hcons] at hgenerate ⊢
    obtain ⟨hfirst, hrest⟩ := List.forall_mem_cons.mp hgenerate
    refine .cons ⟨⟨t, ht, rfl⟩, ?_⟩ (ih hds hrest)
    cases habstract : d.hasModifier .abstractMember with
    | true => exact hfirst habstract
    | false => simp [FunctionDeclaration.modelWith, habstract]

/-- The generated functions of an accepted model are those of the abstract functions. -/
theorem generatedFunctions_isModelOf {c : ClassDeclaration}
    {factories : List FunctionDeclaration} {file : FileRef} {o : Options}
    (hclean : ∀ d ∈ c.functions, d.problems = [])
    (haccepted : Accepted Check.all (c.resolvedModel factories file) o) :
    List.Forall₂ (IsModelOf c.resolvedOptions.basePath)
      (c.functions.filter fun d => d.hasModifier .abstractMember)
      (c.resolvedModel factories file).generatedFunctions := by
  have hall := forall₂_isModelOf c.resolvedOptions.basePath hclean
    fun f hf habstract => haccepted.generate_of_isAbstract hf habstract
  have hfilter : ∀ d f, IsModelOf c.resolvedOptions.basePath d f →
      (d.hasModifier .abstractMember = true ↔ f.generate = true) := by
    intro d f hdf
    rw [hdf.generate]
  exact List.rel_filter hfilter hall

/-! ### The class -/

section Generation

variable (m : InterfaceModel) {names names' : ImportTable} {log log' : Log} {α : Type}
  {R : α → FunctionModel → Prop} {P : ImportTable → α → Code.Function → Prop}

theorem generateOverride_lasts {x : α} {f : FunctionModel} {g : Code.Function}
    (hwrites : ∀ plan, planOverride f = .ok plan →
      Lasts (writeOverride m f plan) fun final => P final x)
    (hrun : (generateOverride m names f).run.run log = (.ok (g, names'), log')) :
    ∀ final : ImportTable, names'.Extends final → P final x g := by
  obtain ⟨inner, hrun⟩ := StepM.ok_of_task hrun
  obtain ⟨plan, planned, hplan, hrun⟩ := StepM.ok_of_bind hrun
  obtain ⟨_, noted, -, hrun⟩ := StepM.ok_of_bind hrun
  have hresult : (writeOverride m f plan).run names = (g, names') := StepM.ok_of_pure hrun
  have hholds := (hwrites plan (StepM.ok_of_ofExcept hplan)).holds names
  rw [hresult] at hholds
  exact hholds

/-- One override for each function, in order. -/
theorem generateOverrides_lasts {xs : List α} {fs : List FunctionModel} {gs : List Code.Function}
    (hwrites : ∀ x f plan, R x f → planOverride f = .ok plan →
      Lasts (writeOverride m f plan) fun final => P final x)
    (hfs : List.Forall₂ R xs fs)
    (hrun : (generateOverrides m names fs).run.run log = (.ok (gs, names'), log')) :
    ∀ final : ImportTable, names'.Extends final → List.Forall₂ (P final) xs gs := by
  induction hfs generalizing names log gs with
  | nil =>
    cases hrun
    exact fun final _ => .nil
  | @cons x f _ _ hf _ ih =>
    obtain ⟨⟨g, between⟩, log₁, hfirst, hrun⟩ := StepM.ok_of_bind hrun
    obtain ⟨⟨rest, last⟩, log₂, hrest, hrun⟩ := StepM.ok_of_bind hrun
    cases hrun
    -- The overrides behind the first one only add names to those that it was written with.
    intro final hfinal
    have hlater := (generateOverrides_extends hrest).trans hfinal
    have hx := generateOverride_lasts m (fun plan => hwrites x f plan hf) hfirst final hlater
    exact .cons hx (ih hrest final hfinal)

/-! ### The main file -/

theorem classes_actualFile (e : ExpectFunction) : (actualFile m e).file.classes = [] := by
  unfold actualFile
  cases (writeForeignActual m e).run (.empty e.packageName) with
  | mk function names => rfl

/-- The first file holds the only class, whose functions are the overrides of the given ones
    in order; the names of that file are those of its package and of its import lines. -/
theorem generate_writes {o : Options} {registry registry' : FactoryRegistry}
    {files : List SourceFile} {xs : List α}
    (hwrites : ∀ x f plan, R x f → planOverride f = .ok plan →
      Lasts (writeOverride m f plan) fun final => P final x)
    (hfs : List.Forall₂ R xs m.generatedFunctions)
    (hrun : (generate m o registry).run.run log = (.ok (files, registry'), log')) :
    ∃ main others cls final, files = main :: others
      ∧ main.file.classes = [cls] ∧ (∀ f ∈ others, f.file.classes = [])
      ∧ cls.name = m.options.generatedName
      ∧ final.package = main.file.package ∧ final.lines = main.file.imports
      ∧ List.Forall₂ (P final) xs cls.functions := by
  obtain ⟨cls, names₁, log₁, enrollment, names₂, log₂, actuals, final, log₃, hclass, hfactories,
    hactuals, -, hpackage, rfl, -⟩ := generate_ok hrun
  obtain ⟨gs, hoverrides, rfl⟩ := generateClass_ok hclass
  -- What is written behind the class leaves the names of the class as they are.
  have hlater : names₁.Extends final :=
    (generateFactories_extends hfactories).trans (generateActuals_extends hactuals)
  refine ⟨_, _, _, final, rfl, rfl, ?_, rfl, hpackage, rfl,
    generateOverrides_lasts m hwrites hfs hoverrides final hlater⟩
  intro f hf
  rw [files_generateActuals m (home_generateFactories m hfactories) hactuals] at hf
  obtain ⟨e, -, rfl⟩ := List.mem_map.mp hf
  exact classes_actualFile m e

theorem generate_overrides {o : Options} {registry registry' : FactoryRegistry}
    {files : List SourceFile} {basePath : String} {ds : List FunctionDeclaration}
    (hfs : List.Forall₂ (IsModelOf basePath) ds m.generatedFunctions)
    (hrun : (generate m o registry).run.run log = (.ok (files, registry'), log')) :
    ∃ main others cls final, files = main :: others
      ∧ main.file.classes = [cls] ∧ (∀ f ∈ others, f.file.classes = [])
      ∧ cls.name = m.options.generatedName
      ∧ final.package = main.file.package ∧ final.lines = main.file.imports
      ∧ List.Forall₂ (Overrides final) ds cls.functions := by
  refine generate_writes m (fun d f plan hf _ => ?_) hfs hrun
  obtain ⟨t, ht, rfl⟩ := hf.model
  exact writeOverride_lasts m ht _ basePath plan

end Generation

/-- A declaration that is read and accepted has a run through every stage when generation ends. -/
theorem ClassDeclaration.exists_generated (c : ClassDeclaration)
    (factories : List FunctionDeclaration) {file : FileRef} (hfile : c.file = some file)
    (hready : c.isReady factories = true)
    (haccepted : Accepted Check.all (c.resolvedModel factories file) .default)
    (hends : ((generate (c.resolvedModel factories file) .default .empty).run.run
      (.opened "")).1.toOption.isSome = true) :
    ∃ log' vlog' files registry' glog',
      (c.extract factories).run.run (.opened "")
          = (.ok (.ready (c.resolvedModel factories file)), log')
      ∧ (validate Check.all (c.resolvedModel factories file) .default).run.run (.opened "")
          = (.ok (some (c.resolvedModel factories file)), vlog')
      ∧ (generate (c.resolvedModel factories file) .default .empty).run.run (.opened "")
          = (.ok (files, registry'), glog') := by
  obtain ⟨log', hextract⟩ := extract_of_isReady hfile hready (.opened "")
  obtain ⟨vlog', hvalidate⟩ := validate_of_accepted rfl haccepted (.opened "")
  obtain ⟨⟨files, registry'⟩, glog', hgenerate⟩ := StepM.exists_ok _ _ hends
  exact ⟨log', vlog', files, registry', glog', hextract, hvalidate, hgenerate⟩

/-! ### Compliance -/

/-- The generated class of an accepted declaration overrides its abstract functions, each
    once and in order, and nothing else. -/
theorem interface_compliance {c : ClassDeclaration} {factories : List FunctionDeclaration}
    {m m' : InterfaceModel} {o : Options} {registry registry' : FactoryRegistry}
    {files : List SourceFile} {log log' vlog vlog' glog glog' : Log}
    (hextract : (c.extract factories).run.run log = (.ok (.ready m), log'))
    (hvalidate : (validate Check.all m o).run.run vlog = (.ok (some m'), vlog'))
    (hgenerate : (generate m' o registry).run.run glog = (.ok (files, registry'), glog')) :
    ∃ main others cls final, files = main :: others
      ∧ main.file.classes = [cls] ∧ (∀ f ∈ others, f.file.classes = [])
      ∧ cls.name = m'.options.generatedName
      ∧ final.package = main.file.package ∧ final.lines = main.file.imports
      ∧ List.Forall₂ (Overrides final)
          (c.functions.filter fun d => d.hasModifier .abstractMember) cls.functions := by
  obtain ⟨rfl, haccepted⟩ := accepted_of_validate hvalidate
  obtain ⟨file, hfile, hclean, rfl⟩ := ClassDeclaration.eq_resolvedModel hextract
  exact generate_overrides _ (generatedFunctions_isModelOf hclean haccepted) hgenerate

def FunctionDeclaration.gettingUser : FunctionDeclaration :=
  .getting "users/\x7bid\x7d" [⟨"id", .named TypeName.string, false, [.named "Path"]⟩]
    (.named TypeName.string)

/-- An interface whose second function has a body of its own. -/
def ClassDeclaration.partlyAbstract : ClassDeclaration :=
  .holding "Users" [.gettingUser,
    { FunctionDeclaration.gettingUser with name := "find", modifiers := [], annotations := [] }]

/-- Only the abstract function is overridden. -/
theorem interface_compliance_of_partlyAbstract :
    ∃ files registry' glog',
      (generate (ClassDeclaration.partlyAbstract.resolvedModel [] ⟨"Users.kt", []⟩) .default
          .empty).run.run (.opened "") = (.ok (files, registry'), glog')
        ∧ ∃ main others cls final, files = main :: others
          ∧ main.file.classes = [cls] ∧ final.lines = main.file.imports
          ∧ List.Forall₂ (Overrides final) [.gettingUser] cls.functions := by
  have hready : ClassDeclaration.partlyAbstract.isReady [] = true := by
    decide +kernel
  have haccepted : Accepted Check.all
      (ClassDeclaration.partlyAbstract.resolvedModel [] ⟨"Users.kt", []⟩) .default :=
    errorsOf_eq_zero.mp (by decide +kernel)
  have hgenerated : ((generate (ClassDeclaration.partlyAbstract.resolvedModel []
      ⟨"Users.kt", []⟩) .default .empty).run.run (.opened "")).1.toOption.isSome = true := by
    decide +kernel
  obtain ⟨log', hextract⟩ := ClassDeclaration.extract_of_isReady rfl hready (.opened "")
  obtain ⟨vlog', hvalidate⟩ := validate_of_accepted rfl haccepted (.opened "")
  cases hrun : (generate (ClassDeclaration.partlyAbstract.resolvedModel []
      ⟨"Users.kt", []⟩) .default .empty).run.run (.opened "") with
  | mk result glog' =>
    rw [hrun] at hgenerated
    cases result with
    | error f => cases hgenerated
    | ok generated =>
      obtain ⟨files, registry'⟩ := generated
      obtain ⟨main, others, cls, final, hfiles, hclasses, -, -, -, hlines, hoverrides⟩ :=
        interface_compliance hextract hvalidate hrun
      exact ⟨files, registry', glog', rfl, main, others, cls, final, hfiles, hclasses, hlines,
        hoverrides⟩

end ClientGen
