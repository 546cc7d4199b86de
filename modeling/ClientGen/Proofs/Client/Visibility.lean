/-
  ClientGen/Proofs/Client/Visibility.lean
  =======================================
  **The visibilities that are written.**

  A visibility is checked by what it spells, whatever the case of its letters and the blanks
  around it, and written as it was given.  So the class, its constructor and its factories
  show the visibility that was given for each of them, or else for all of them, or else
  that of the interface; each spells one that is admitted there, and it is the keyword of
  that one exactly when it was spelled in small letters and without blanks
  (`visibilities_written`).
-/
import ClientGen.Proofs.Client.Compliance
import ClientGen.Proofs.Client.Signatures

namespace ClientGen

open ClientGen.Client ClientGen.Code ClientGen.Text

/-! ### Spellings -/

theorem Visibility.keyword_of_parse? {v : Visibility} {s : String}
    (h : Visibility.parse? s = some v) : v.keyword = asciiLower (trim s) := by
  unfold Visibility.parse? at h
  have hfound := List.find?_some h
  exact eq_of_beq hfound

theorem Visibility.trim_keyword (v : Visibility) : trim v.keyword = v.keyword := by
  cases v <;> decide

theorem Visibility.asciiLower_keyword (v : Visibility) : asciiLower v.keyword = v.keyword := by
  cases v <;> decide

/-- A text that is written where one of some visibilities stands. -/
structure SpellsOneOf (vs : List Visibility) (text : String) : Prop where
  parsed : ∃ v ∈ vs, Visibility.parse? text = some v
  /-- It is a keyword when nothing about its spelling is odd, and only then. -/
  keyword : (∃ v ∈ vs, text = v.keyword) ↔ trim text = text ∧ asciiLower text = text

theorem SpellsOneOf.of_parse? {vs : List Visibility} {text : String}
    (h : ∃ v ∈ vs, Visibility.parse? text = some v) : SpellsOneOf vs text where
  parsed := h
  keyword := by
    constructor
    · rintro ⟨v, -, rfl⟩
      exact ⟨v.trim_keyword, v.asciiLower_keyword⟩
    · rintro ⟨htrim, hlower⟩
      obtain ⟨v, hv, hparsed⟩ := h
      refine ⟨v, hv, ?_⟩
      rw [Visibility.keyword_of_parse? hparsed, htrim, hlower]

/-! ### Factories -/

/-- The factory shows a visibility in front of its marks. -/
def Client.Factory.Shows (visibility : String) (f : Factory) : Prop :=
  ∃ n, f.function.modifiers = visibility :: List.replicate n actualWord

section Factories

variable (m : InterfaceModel) {visibility : String}

theorem writeFactory_shows (interface : String) (kind : FactoryKind) (name : String)
    (receiver : Option Receiver) (params : List (String × TypeRef)) (arguments : List String) :
    Writes (writeFactory m interface kind name receiver params arguments) fun f =>
      f.Shows m.options.functionVisibility := by
  unfold writeFactory
  refine (Writes.trivial _).bind fun annotations _ => ?_
  refine (Writes.trivial _).bind fun written _ => ?_
  exact .pure ⟨0, rfl⟩

theorem writeFactories_show : Writes (writeFactories m) fun fs =>
    ∀ f ∈ fs, f.Shows m.options.functionVisibility := by
  have hone : ∀ f : Factory, f.Shows m.options.functionVisibility →
      ∀ g ∈ [f], g.Shows m.options.functionVisibility := by
    intro f hf g hg
    rwa [List.mem_singleton.mp hg]
  unfold writeFactories
  refine (Writes.trivial _).bind fun interface _ => ?_
  have htopLevel : Writes (writeTopLevelFactory m interface) fun fs =>
      ∀ f ∈ fs, f.Shows m.options.functionVisibility := by
    unfold writeTopLevelFactory
    cases m.options.topLevelFactory with
    | none => exact .pure nofun
    | some name => exact (writeFactory_shows m _ _ _ _ _ _).bind fun f hf => .pure (hone f hf)
  have hcompanion : Writes (writeCompanionFactory m interface) fun fs =>
      ∀ f ∈ fs, f.Shows m.options.functionVisibility := by
    unfold writeCompanionFactory
    split
    · exact (writeFactory_shows m _ _ _ _ _ _).bind fun f hf => .pure (hone f hf)
    · exact .pure nofun
  have hclient : Writes (writeClientFactory m interface) fun fs =>
      ∀ f ∈ fs, f.Shows m.options.functionVisibility := by
    unfold writeClientFactory
    cases m.options.httpClientFactory with
    | none => exact .pure nofun
    | some name =>
      refine (Writes.trivial _).bind fun client _ => ?_
      exact (writeFactory_shows m _ _ _ _ _ _).bind fun f hf => .pure (hone f hf)
  refine htopLevel.bind fun topLevel htop => ?_
  refine hcompanion.bind fun companion hcomp => ?_
  refine hclient.bind fun client hcli => .pure fun f hf => ?_
  rcases List.mem_append.mp hf with hf | hf
  · exact (List.mem_append.mp hf).elim (htop f) (hcomp f)
  · exact hcli f hf

theorem Client.Factory.Shows.asActual {f : Factory} (h : f.Shows visibility) :
    f.asActual.Shows visibility := by
  obtain ⟨n, hn⟩ := h
  refine ⟨n + 1, ?_⟩
  rw [List.replicate_succ']
  change f.function.modifiers ++ [actualWord] = _
  rw [hn, List.cons_append]

theorem markActual_shows {key : FactoryKey} {fs : List Factory}
    (h : ∀ f ∈ fs, f.Shows visibility) : ∀ f ∈ markActual key fs, f.Shows visibility := by
  intro f hf
  rcases mem_markActual hf with hf | ⟨g, hg, rfl⟩
  · exact h f hf
  · exact (h g hg).asActual

theorem add_shows (a : Actuals) (e : ExpectFunction) (h : ∀ f ∈ a.factories, f.Shows visibility) :
    Writes (a.add m e) fun a' => ∀ f ∈ a'.factories, f.Shows visibility := by
  unfold Actuals.add
  split
  · exact .pure (markActual_shows h)
  · split
    · exact .pure h
    · split
      · exact (Writes.trivial _).bind fun _ _ => .pure h
      · exact .pure h

theorem generateActuals_shows {o : Options} {factories : List Factory} {names names' : ImportTable}
    {actuals : Actuals} {log log' : Log} (h : ∀ f ∈ factories, f.Shows visibility)
    (hrun : (generateActuals m o factories names).run.run log = (.ok (actuals, names'), log')) :
    ∀ f ∈ actuals.factories, f.Shows visibility := by
  have hok := generateActuals_ok hrun
  split at hok
  · have hshows : Writes (writeActuals m factories) fun a =>
        ∀ f ∈ a.factories, f.Shows visibility :=
      Writes.foldlM (fun a e => add_shows m a e) _ h
    have hnow := hshows names
    rw [hok] at hnow
    exact hnow
  · cases hok
    exact h

end Factories

/-! ### Generated files -/

/-- What generation writes shows the visibilities of the options. -/
theorem generate_shows {m : InterfaceModel} {o : Options} {registry registry' : FactoryRegistry}
    {files : List SourceFile} {log log' : Log}
    (hrun : (generate m o registry).run.run log = (.ok (files, registry'), log')) :
    ∃ main others cls wanted final actuals,
      Generated m o registry registry' files log' wanted final actuals
        ∧ files = main :: others ∧ main.file.classes = [cls]
        ∧ main.file.functions = actuals.factories.map Factory.function ++ actuals.functions
        ∧ cls.modifiers = [m.options.classVisibility]
        ∧ cls.constructorModifiers = [m.options.constructorVisibility]
        ∧ ∀ f ∈ actuals.factories, f.Shows m.options.functionVisibility := by
  obtain ⟨cls, names₁, log₁, enrollment, names₂, log₂, actuals, final, log₃, hclass, hfactories,
    hactuals, hlater, hpackage, rfl, rfl⟩ := generate_ok hrun
  obtain ⟨gs, -, rfl⟩ := generateClass_ok hclass
  refine ⟨_, _, _, _, final, actuals,
    generated_of_stages hfactories hactuals hlater hpackage, rfl, rfl, rfl, rfl, rfl, ?_⟩
  obtain ⟨henrollment, -⟩ := Prod.mk.inj (generateFactories_ok hfactories)
  refine generateActuals_shows m (fun f hf => ?_) hactuals
  rw [← henrollment] at hf
  exact writeFactories_show m names₁ f (FactoryRegistry.mem_of_mem_enrolled hf)

namespace ClassDeclaration

variable (c : ClassDeclaration)

/-- The visibility that is given for everything, or else that of the interface. -/
def givenVisibility : String :=
  setOr c.settings.visibility c.visibility.keyword

def classVisibility : String :=
  setOr c.settings.classVisibility c.givenVisibility

def constructorVisibility : String :=
  setOr c.settings.constructorVisibility c.givenVisibility

def factoryVisibility : String :=
  setOr c.settings.functionVisibility c.givenVisibility

end ClassDeclaration

/-- The class, its constructor and its factories show the visibilities that were given, and
    each of them spells one that is admitted there. -/
theorem visibilities_written {c : ClassDeclaration} {factories : List FunctionDeclaration}
    {m m' : InterfaceModel} {o : Options} {registry registry' : FactoryRegistry}
    {files : List SourceFile} {log log' vlog vlog' glog glog' : Log}
    (hextract : (c.extract factories).run.run log = (.ok (.ready m), log'))
    (hvalidate : (validate Check.all m o).run.run vlog = (.ok (some m'), vlog'))
    (hgenerate : (generate m' o registry).run.run glog = (.ok (files, registry'), glog')) :
    ∃ main others cls wanted final actuals,
      Generated m' o registry registry' files glog' wanted final actuals
        ∧ files = main :: others ∧ main.file.classes = [cls]
        ∧ main.file.functions = actuals.factories.map Factory.function ++ actuals.functions
        ∧ cls.modifiers = [c.classVisibility]
        ∧ SpellsOneOf [.publicScope, .internalScope, .privateScope] c.classVisibility
        ∧ cls.constructorModifiers = [c.constructorVisibility]
        ∧ SpellsOneOf [.publicScope, .internalScope] c.constructorVisibility
        ∧ (∀ f ∈ actuals.factories, f.Shows c.factoryVisibility)
        ∧ SpellsOneOf [.publicScope, .internalScope] c.factoryVisibility := by
  obtain ⟨rfl, haccepted⟩ := accepted_of_validate hvalidate
  obtain ⟨file, -, -, rfl⟩ := ClassDeclaration.eq_resolvedModel hextract
  obtain ⟨main, others, cls, wanted, final, actuals, hgenerated, hfiles, hclasses, hfunctions,
    hclass, hconstructor, hfactories⟩ := generate_shows hgenerate
  obtain ⟨hclassSpells, hconstructorSpells, hfactorySpells⟩ := haccepted.visibilities
  exact ⟨main, others, cls, wanted, final, actuals, hgenerated, hfiles, hclasses, hfunctions,
    hclass, .of_parse? hclassSpells, hconstructor, .of_parse? hconstructorSpells,
    hfactories, .of_parse? hfactorySpells⟩

def ClassDeclaration.showing (visibility : AnnotationValue) : ClassDeclaration :=
  { ClassDeclaration.holding "Users" [.getting "users" [] (.named TypeName.string)] with
    annotations := [⟨"KtorGen", [("classVisibilityModifier", visibility)]⟩] }

theorem visibilities_written_of_private :
    ∃ files registry' glog', (generate ((ClassDeclaration.showing (.string "private")).resolvedModel
        [] ⟨"Users.kt", []⟩) .default .empty).run.run (.opened "") = (.ok (files, registry'), glog')
      ∧ ∃ main others cls, files = main :: others ∧ main.file.classes = [cls]
        ∧ cls.modifiers = ["private"] ∧ cls.constructorModifiers = ["public"] := by
  obtain ⟨log', vlog', files, registry', glog', hextract, hvalidate, hgenerate⟩ :=
    ClassDeclaration.exists_generated (.showing (.string "private")) [] rfl
      (by decide +kernel) (errorsOf_eq_zero.mp (by decide +kernel)) (by decide +kernel)
  obtain ⟨main, others, cls, wanted, final, actuals, -, hfiles, hclasses, -, hclass, -,
    hconstructor, -, -, -⟩ := visibilities_written hextract hvalidate hgenerate
  have hgiven : (ClassDeclaration.showing (.string "private")).classVisibility = "private" := by
    decide +kernel
  have hinherited : (ClassDeclaration.showing (.string "private")).constructorVisibility
      = "public" := by
    decide +kernel
  rw [hgiven] at hclass
  rw [hinherited] at hconstructor
  exact ⟨files, registry', glog', hgenerate, main, others, cls, hfiles, hclasses, hclass,
    hconstructor⟩

/-- A visibility may be written in capitals, as an entry of an enumeration is. -/
theorem visibility_may_be_no_keyword :
    ¬ ∀ (c : ClassDeclaration) (factories : List FunctionDeclaration) (m m' : InterfaceModel)
        (o : Options) (registry registry' : FactoryRegistry) (files : List SourceFile)
        (log log' vlog vlog' glog glog' : Log),
      (c.extract factories).run.run log = (.ok (.ready m), log') →
      (validate Check.all m o).run.run vlog = (.ok (some m'), vlog') →
      (generate m' o registry).run.run glog = (.ok (files, registry'), glog') →
        ∃ main others cls, files = main :: others ∧ main.file.classes = [cls]
          ∧ (cls.modifiers = ["public"] ∨ cls.modifiers = ["internal"]
            ∨ cls.modifiers = ["private"]) := by
  intro hall
  obtain ⟨log', vlog', files, registry', glog', hextract, hvalidate, hgenerate⟩ :=
    ClassDeclaration.exists_generated (.showing (.enumEntry "demo.Scope" "INTERNAL")) [] rfl
      (by decide +kernel) (errorsOf_eq_zero.mp (by decide +kernel)) (by decide +kernel)
  obtain ⟨main, others, cls, -, -, -, -, hfiles, hclasses, -, hclass, -⟩ :=
    generate_shows hgenerate
  obtain ⟨main', others', cls', hfiles', hclasses', hkeyword⟩ :=
    hall _ _ _ _ _ _ _ _ _ _ _ _ _ _ hextract hvalidate hgenerate
  rw [hfiles] at hfiles'
  cases hfiles'
  rw [hclasses] at hclasses'
  cases hclasses'
  rw [hclass] at hkeyword
  revert hkeyword
  decide +kernel

end ClientGen
