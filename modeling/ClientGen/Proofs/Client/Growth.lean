/-
  ClientGen/Proofs/Client/Growth.lean
  ===================================
  **Everything that is written for a client only adds names.**

  One lemma for each part of a generated file, up to its functions (`writeOverride_grows`)
  and to what stands behind its factories (`writeActuals_grows`).  All of them write names,
  members and types one after another and touch the names of the file in no other way.
  A run that generates files takes the stages of generation one after another, with the
  names of the stage before (`generate_ok`).
-/
import ClientGen.Client.Generation
import ClientGen.Proofs.Diagnostics.Conduct
import ClientGen.Proofs.Imports.Growth

namespace ClientGen

open ClientGen.Client ClientGen.Request ClientGen.Text

/-! ### Imports of the source file -/

theorem addSourceImport_grows (text : String) : Grows (addSourceImport text) := by
  unfold addSourceImport
  extract_lets text
  refine Grows.ite ?_ ?_
  · intro names
    exact ⟨rfl, fun _ _ h => h, fun _ h => h, fun _ h => Ascending.mem_putName.mpr (.inr h)⟩
  · refine Grows.ite ?_ (.pure _)
    exact (Grows.name text).map _

theorem writeSourceImports_grows (m : InterfaceModel) : Grows (writeSourceImports m) := by
  unfold writeSourceImports
  induction m.imports.filter fun i => !isVocabulary i with
  | nil => exact .pure _
  | cons i rest ih =>
    exact (addSourceImport_grows i).bind fun _ => ih

/-! ### Annotations -/

mutual
theorem writeArgument_stable : ∀ v : AnnotationValue, Stable (writeArgument v)
  | .bool b => by
    rw [writeArgument]
    exact .pure _
  | .int n => by
    rw [writeArgument]
    exact .pure _
  | .float x => by
    rw [writeArgument]
    exact .pure _
  | .string s => by
    rw [writeArgument]
    exact .pure _
  | .array values => by
    rw [writeArgument]
    exact (writeElements_stable values).map _
  | .classRef name => by
    rw [writeArgument]
    exact (Stable.name name).map _
  | .enumEntry type entry => by
    rw [writeArgument]
    exact (Stable.name type).map _
  | .nested use => by
    rw [writeArgument]
    exact writeUse_stable use

theorem writeElements_stable : ∀ vs : List AnnotationValue, Stable (writeElements vs)
  | [] => by
    rw [writeElements]
    exact .pure []
  | v :: vs => by
    rw [writeElements]
    exact (writeArgument_stable v).bind fun written => (writeElements_stable vs).map _

theorem writeUse_stable : ∀ use : AnnotationUse, Stable (writeUse use)
  | ⟨name, arguments⟩ => by
    rw [writeUse]
    exact (Stable.name name).bind fun written => (writeArgumentList_stable arguments).map _

theorem writeArgumentList_stable : ∀ as : List (String × AnnotationValue),
    Stable (writeArgumentList as)
  | [] => by
    rw [writeArgumentList]
    exact .pure []
  | (name, value) :: rest => by
    rw [writeArgumentList]
    exact (writeArgument_stable value).bind fun written => (writeArgumentList_stable rest).map _
end

/-- A copied annotation is written alike with the names of the finished file. -/
theorem writeMarkedUse_stable (use : AnnotationUse) : Stable (writeMarkedUse use) :=
  (writeUse_stable use).map _

theorem writeMarkedUse_grows (use : AnnotationUse) : Grows (writeMarkedUse use) :=
  (writeMarkedUse_stable use).grows

theorem writeMarker_stable (name : String) : Stable (writeMarker name) :=
  (Stable.name name).map _

theorem writeMarker_grows (name : String) : Grows (writeMarker name) :=
  (writeMarker_stable name).grows

theorem writeOptIn_stable (names : List String) : Stable (writeOptIn names) := by
  unfold writeOptIn
  refine (Stable.mapM names fun name => (Stable.name name).map _).bind fun written => ?_
  refine Stable.ite (.pure _) ?_
  exact (Stable.name _).map _

theorem writeOptIn_grows (names : List String) : Grows (writeOptIn names) :=
  (writeOptIn_stable names).grows

/-! ### Requests -/

section Requests

variable (f : FunctionModel) (p : ParameterModel)

theorem writeBuilders_grows : Grows (writeBuilders f) := by
  have htaken : ∀ p, Grows (writeTakenRequest p) := by
    intro p
    unfold writeTakenRequest
    split
    · exact (Grows.member _).bind fun _ => .pure _
    · exact .pure _
  exact (Grows.mapM _ htaken).map _

theorem writeMethod_grows (m : HttpMethod) : Grows (writeMethod m) := by
  unfold writeMethod
  refine Grows.ite (.pure _) ?_
  exact (Grows.name _).map _

theorem writePathPiece_grows (piece : PathPiece) : Grows (writePathPiece piece) := by
  cases piece with
  | text content => exact .pure _
  | parameter name encoded =>
    cases encoded with
    | true => exact .pure _
    | false => exact (Grows.member _).map _

theorem writeTakeFrom_grows (url : String) : Grows (writeTakeFrom url) :=
  (Grows.member _).map _

theorem writeOwnPath_grows (path : List PathPiece) : Grows (writeOwnPath f path) := by
  unfold writeOwnPath
  refine Grows.ite (.pure _) ?_
  have hpath : Grows (writePath path) := (Grows.mapM path writePathPiece_grows).map _
  exact hpath.bind fun literal => (writeTakeFrom_grows literal).map _

theorem writeUrl_grows (path : List PathPiece) : Grows (writeUrl f path) := by
  have hbody : Grows (writeUrlBody f path) := by
    refine (Grows.mapM _ fun p : ParameterModel => writeTakeFrom_grows p.name).bind fun urls => ?_
    exact (writeOwnPath_grows f path).map _
  exact hbody.map _

theorem writeHeaders_grows : Grows (writeHeaders f) := by
  have htype : Grows (writeContentType f) := by
    unfold writeContentType
    refine Grows.ite ?_ (.pure _)
    exact (Grows.member _).bind fun set => (Grows.name _).map _
  have hblock : ∀ body, Grows (writeHeaderBlock body) := by
    intro body
    unfold writeHeaderBlock
    exact Grows.ite (.pure _) ((Grows.member _).map _)
  exact htype.bind fun contentType => (hblock _).map _

theorem writeCookie_grows (c : Cookie) : Grows (writeCookie c) := by
  have hexpires : ∀ time, Grows (writeExpires time) := by
    intro time
    cases time with
    | none => exact .pure _
    | some time => exact (Grows.name _).map _
  exact (Grows.member _).bind fun cookie => (hexpires _).map _

theorem writeParameterCookie_grows (c : Cookie) : Grows (writeParameterCookie p c) := by
  unfold writeParameterCookie
  refine (writeCookie_grows c).bind fun statement => ?_
  cases c.value with
  | literal value => exact .pure _
  | fromParameter => exact .pure _

theorem writeCookies_grows : Grows (writeCookies f) := by
  unfold writeCookies
  have hown : ∀ c, Grows (writeOwnCookie c) := fun c => (writeCookie_grows c).map _
  refine (Grows.mapM f.cookies hown).bind fun own => ?_
  exact (Grows.mapM _ fun pc : ParameterModel × Cookie =>
    writeParameterCookie_grows pc.1 pc.2).map _

theorem writeMultipart_grows : Grows (writeMultipart f) := by
  unfold writeMultipart
  refine (Grows.name _).bind fun part => ?_
  refine (Grows.member _).bind fun collect => ?_
  refine (Grows.name _).bind fun content => ?_
  exact (Grows.member _).map _

theorem writeField_grows (r : Role) : Grows (writeField? p r) := by
  have hdecoder : ∀ encoded, Grows (writeDecoder encoded) := fun encoded =>
    Grows.ite ((Grows.member _).map _) (.pure _)
  cases r with
  | field name encoded => exact (hdecoder encoded).map _
  | fieldMap encoded => exact (hdecoder encoded).map _
  | _ => exact .pure _

theorem writeForm_grows : Grows (writeForm f) := by
  have hfields : Grows (writeFields f) :=
    (Grows.mapM _ fun use : ParameterModel × Role => writeField_grows use.1 use.2).map _
  refine hfields.bind fun fields => ?_
  refine (Grows.name _).bind fun parameters => ?_
  refine (Grows.name _).bind fun content => ?_
  exact (Grows.member _).map _

theorem writeBody_grows : Grows (writeBody f) := by
  unfold writeBody
  cases BodyStyle.of f with
  | parameter p => exact (Grows.member _).map _
  | multipart => exact writeMultipart_grows f
  | form => exact writeForm_grows f
  | absent => exact .pure _

theorem writeTags_grows : Grows (writeTags f) := by
  refine Grows.mapM _ fun use => ?_
  unfold writeTag
  exact (Grows.name _).bind fun key => (Grows.type _).map _

/-- Sections are written one after the other, so each has to leave the names of the earlier ones. -/
theorem writePopulation_grows (path : List PathPiece) : Grows (writePopulation f path) := by
  unfold writePopulation
  refine (writeBuilders_grows f).bind fun builders => ?_
  refine (writeMethod_grows _).bind fun method => ?_
  refine (writeUrl_grows f path).bind fun url => ?_
  refine (writeHeaders_grows f).bind fun headers => ?_
  refine (writeCookies_grows f).bind fun cookies => ?_
  refine (writeBody_grows f).bind fun body => ?_
  exact (writeTags_grows f).map _

end Requests

/-! ### Bodies of overrides -/

section Bodies

variable (r : RequestParts)

theorem writeResponse_grows (t : TypeRef) : Grows (writeResponse t) :=
  (Grows.member _).bind fun _ => (Grows.type t).map _

theorem writeExecuted_grows (front back : String) : Grows (writeExecuted r front back) :=
  (Grows.member _).map _

theorem writeDescribed_grows (front back : String) : Grows (writeDescribed r front back) :=
  (Grows.name _).map _

theorem writePrepared_grows (front back : String) : Grows (writePrepared r front back) :=
  (Grows.name _).bind fun _ => (Grows.name _).map _

theorem writeReturned_grows (use : RequestUse) : Grows (writeReturned r use) := by
  cases use with
  | execute response =>
    cases response with
    | none => exact (writeExecuted_grows r _ _).map _
    | some t => exact (writeResponse_grows t).bind fun _ => (writeExecuted_grows r _ _).map _
  | describe => exact (writeDescribed_grows r _ _).map _
  | prepare => exact (writePrepared_grows r _ _).map _

theorem writePassed_grows (receiver : String) (use : RequestUse) :
    Grows (writePassed r receiver use) := by
  cases use with
  | execute response =>
    cases response with
    | none => exact (writeExecuted_grows r _ _).map _
    | some t => exact (writeResponse_grows t).bind fun _ => (writeExecuted_grows r _ _).map _
  | describe => exact (writeDescribed_grows r _ _).map _
  | prepare => exact (writePrepared_grows r _ _).map _

theorem writeCapture_grows (opening : String) (guarded : List Code.Statement)
    (checksCancellation : Bool) : Grows (writeCapture opening guarded checksCancellation) := by
  have hcheck : Grows writeCancellationCheck :=
    (Grows.member _).bind fun context => (Grows.member _).map _
  unfold writeCapture
  split
  · exact hcheck.map _
  · exact (Grows.pure _).map _

theorem writeStream_grows (body : List Code.Statement) : Grows (writeStream body) :=
  (Grows.member _).map _

theorem writeBodyPlan_grows (isSuspend : Bool) (plan : BodyPlan) :
    Grows (writeBodyPlan r isSuspend plan) := by
  cases plan with
  | direct use => exact writeReturned_grows r use
  | captured use =>
    exact (writePassed_grows r _ use).bind fun guarded => (writeCapture_grows _ _ _).map _
  | streamed response =>
    exact (writePassed_grows r _ _).bind fun body => writeStream_grows body
  | streamedCapture use =>
    refine (writePassed_grows r _ use).bind fun guarded => ?_
    exact (writeCapture_grows _ _ _).bind fun capture => writeStream_grows _

end Bodies

/-! ### Overrides -/

section Interface

variable (m : InterfaceModel)

theorem writeOverrideAnnotations_grows (f : FunctionModel) :
    Grows (writeOverrideAnnotations m f) := by
  unfold writeOverrideAnnotations
  have hrest : ∀ copied : List String, Grows (do
      let markers ← f.settings.annotations.mapM writeMarker
      let optIn ← writeOptIn (m.options.optInAnnotations ++ f.settings.optInAnnotations)
      return copied ++ markers ++ optIn) := by
    intro copied
    refine (Grows.mapM _ writeMarker_grows).bind fun markers => ?_
    exact (writeOptIn_grows _).map _
  split
  · exact (Grows.mapM _ writeMarkedUse_grows).bind hrest
  · exact (Grows.pure _).bind hrest

theorem writeOverrideBody_grows (f : FunctionModel) (plan : OverridePlan) :
    Grows (writeOverrideBody m f plan) :=
  (writePopulation_grows f _).bind fun _ => writeBodyPlan_grows _ _ _

theorem writeOverride_grows (f : FunctionModel) (plan : OverridePlan) :
    Grows (writeOverride m f plan) := by
  have hparam : ∀ p, Grows (writeOverrideParam p) := fun p =>
    (Grows.type _).bind fun _ => (Grows.mapM _ writeMarkedUse_grows).map _
  unfold writeOverride
  refine (writeOverrideAnnotations_grows m f).bind fun annotations => ?_
  refine (Grows.mapM _ hparam).bind fun params => ?_
  refine (Grows.type _).bind fun returnType => ?_
  exact (writeOverrideBody_grows m f plan).map _

/-! ### The class and its factories -/

theorem writeClassAnnotations_grows (o : ClassOptions) : Grows (writeClassAnnotations o) := by
  refine (writeMarker_grows _).bind fun generated => ?_
  refine (Grows.mapM _ writeMarker_grows).bind fun markers => ?_
  exact (writeOptIn_grows _).map _

theorem writeClassHead_grows : Grows (writeClassHead m) := by
  have hparam : ∀ p, Grows (writeConstructorParam p) := fun p => (Grows.type _).map _
  have hdelegation : ∀ t, Grows (writeDelegation t) := fun t => (Grows.type t).map _
  unfold writeClassHead
  refine (writeClassAnnotations_grows m.options).bind fun annotations => ?_
  refine (Grows.mapM _ hparam).bind fun params => ?_
  refine (Grows.name _).bind fun interface => ?_
  exact (Grows.mapM _ hdelegation).map _

theorem writeFactoryAnnotations_grows (o : ClassOptions) : Grows (writeFactoryAnnotations o) := by
  refine (writeMarker_grows _).bind fun generated => ?_
  refine (Grows.mapM _ writeMarker_grows).bind fun markers => ?_
  exact (writeOptIn_grows _).map _

theorem writeParam_grows (p : String × TypeRef) : Grows (writeParam p) :=
  (Grows.type p.2).map _

theorem writeFactory_grows (interface : String) (kind : FactoryKind) (name : String)
    (receiver : Option Receiver) (params : List (String × TypeRef)) (arguments : List String) :
    Grows (writeFactory m interface kind name receiver params arguments) :=
  (writeFactoryAnnotations_grows m.options).bind fun _ =>
    (Grows.mapM params writeParam_grows).map _

theorem writeFactories_grows : Grows (writeFactories m) := by
  have htopLevel : ∀ interface, Grows (writeTopLevelFactory m interface) := by
    intro interface
    unfold writeTopLevelFactory
    cases m.options.topLevelFactory with
    | none => exact .pure _
    | some name => exact (writeFactory_grows m _ _ _ _ _ _).map _
  have hcompanion : ∀ interface, Grows (writeCompanionFactory m interface) := by
    intro interface
    unfold writeCompanionFactory
    split
    · exact (writeFactory_grows m _ _ _ _ _ _).map _
    · exact .pure _
  have hclient : ∀ interface, Grows (writeClientFactory m interface) := by
    intro interface
    unfold writeClientFactory
    cases m.options.httpClientFactory with
    | none => exact .pure _
    | some name =>
      exact (Grows.name _).bind fun client => (writeFactory_grows m _ _ _ _ _ _).map _
  unfold writeFactories
  refine (Grows.name _).bind fun interface => ?_
  refine (htopLevel interface).bind fun topLevel => ?_
  refine (hcompanion interface).bind fun companion => ?_
  exact (hclient interface).map _

/-! ### Declared functions -/

theorem writeActual_grows (e : ExpectFunction) : Grows (writeActual m e) := by
  unfold writeActual
  refine (writeFactoryAnnotations_grows m.options).bind fun annotations => ?_
  refine (Grows.mapM _ writeMarkedUse_grows).bind fun copied => ?_
  refine (Grows.mapM _ writeParam_grows).bind fun params => ?_
  exact (Grows.type _).map _

theorem writeActuals_grows (factories : List Factory) : Grows (writeActuals m factories) := by
  have hadd : ∀ a e, Grows (Actuals.add m a e) := by
    intro a e
    unfold Actuals.add
    split
    · exact .pure _
    · split
      · exact .pure _
      · exact Grows.ite ((writeActual_grows m e).map _) (.pure _)
  unfold writeActuals
  generalize Actuals.start factories = a
  induction m.expectFunctions.filter fun e => e.isExpect generalizing a with
  | nil => exact .pure _
  | cons e es ih =>
    rw [List.foldlM_cons]
    exact (hadd a e).bind fun a' => ih a'

end Interface

/-! ### Runs that succeed -/

section Runs

variable {m : InterfaceModel} {o : Options} {registry : FactoryRegistry}
  {names names' : ImportTable} {log log' : Log}

theorem generateOverride_extends {f : FunctionModel} {g : Code.Function}
    (hrun : (generateOverride m names f).run.run log = (.ok (g, names'), log')) :
    names.Extends names' := by
  obtain ⟨inner, hrun⟩ := StepM.ok_of_task hrun
  obtain ⟨plan, planned, -, hrun⟩ := StepM.ok_of_bind hrun
  obtain ⟨_, noted, -, hrun⟩ := StepM.ok_of_bind hrun
  have hresult : (writeOverride m f plan).run names = (g, names') := StepM.ok_of_pure hrun
  have hgrows := writeOverride_grows m f plan names
  rw [hresult] at hgrows
  exact hgrows

theorem generateOverrides_extends {fs : List FunctionModel} {gs : List Code.Function}
    (hrun : (generateOverrides m names fs).run.run log = (.ok (gs, names'), log')) :
    names.Extends names' := by
  induction fs generalizing names log gs with
  | nil =>
    cases hrun
    exact .refl _
  | cons f fs ih =>
    obtain ⟨⟨g, between⟩, log₁, hfirst, hrun⟩ := StepM.ok_of_bind hrun
    obtain ⟨⟨rest, last⟩, log₂, hrest, hrun⟩ := StepM.ok_of_bind hrun
    cases hrun
    exact (generateOverride_extends hfirst).trans (ih hrest)

/-- The head of the class is written first, and its overrides with the names behind it. -/
theorem generateClass_ok {cls : Code.Class}
    (hrun : (generateClass m names).run.run log = (.ok (cls, names'), log')) :
    ∃ gs, (generateOverrides m ((writeClassHead m).run names).2 m.generatedFunctions).run.run log
        = (.ok (gs, names'), log')
      ∧ cls = implementation m ((writeClassHead m).run names).1 gs := by
  unfold generateClass at hrun
  cases hwritten : (writeClassHead m).run names with
  | mk head between =>
    rw [hwritten] at hrun
    obtain ⟨⟨gs, last⟩, log₁, hoverrides, hreturn⟩ := StepM.ok_of_bind hrun
    cases hreturn
    exact ⟨gs, hoverrides, rfl⟩

theorem generateClass_extends {cls : Code.Class}
    (hrun : (generateClass m names).run.run log = (.ok (cls, names'), log')) :
    names.Extends names' := by
  obtain ⟨gs, hoverrides, -⟩ := generateClass_ok hrun
  exact (writeClassHead_grows m names).trans (generateOverrides_extends hoverrides)

theorem companion_of_generateFactories {enrollment : Enrollment}
    (hrun : (generateFactories m registry names).run.run log = (.ok (enrollment, names'), log')) :
    (m.options.companionFactory.isSome && m.companion.isNone) = false := by
  unfold generateFactories at hrun
  cases hmissing : m.options.companionFactory.isSome && m.companion.isNone with
  | false => rfl
  | true =>
    simp only [hmissing, if_true] at hrun
    obtain ⟨_, between, hthrown, -⟩ := StepM.ok_of_bind hrun
    cases hthrown

/-- With its companion, an interface gets what the registry enrolls of its factories. -/
theorem generateFactories_eq
    (h : (m.options.companionFactory.isSome && m.companion.isNone) = false) :
    generateFactories m registry names
      = (recordAll ((registry.enroll ((writeFactories m).run names).1).refused.map (refusal m))
          >>= fun _ => pure (registry.enroll ((writeFactories m).run names).1,
            ((writeFactories m).run names).2)) := by
  unfold generateFactories
  simp only [h, Bool.false_eq_true, if_false]
  cases (writeFactories m).run names with
  | mk factories names' => rfl

theorem generateFactories_ok {enrollment : Enrollment}
    (hrun : (generateFactories m registry names).run.run log = (.ok (enrollment, names'), log')) :
    (registry.enroll ((writeFactories m).run names).1, ((writeFactories m).run names).2)
      = (enrollment, names') := by
  rw [generateFactories_eq (companion_of_generateFactories hrun)] at hrun
  obtain ⟨_, recorded, -, hreturn⟩ := StepM.ok_of_bind hrun
  exact StepM.ok_of_pure hreturn

theorem generateFactories_extends {enrollment : Enrollment}
    (hrun : (generateFactories m registry names).run.run log = (.ok (enrollment, names'), log')) :
    names.Extends names' := by
  obtain ⟨-, rfl⟩ := Prod.mk.inj (generateFactories_ok hrun)
  exact writeFactories_grows m names

theorem generateActuals_ok {factories : List Factory} {actuals : Actuals}
    (hrun : (generateActuals m o factories names).run.run log = (.ok (actuals, names'), log')) :
    (if o.experimental then (writeActuals m factories).run names else (.start factories, names))
      = (actuals, names') := by
  unfold generateActuals at hrun
  by_cases hexperimental : o.experimental = true
  · rw [if_pos hexperimental] at hrun ⊢
    obtain ⟨_, recorded, -, hreturn⟩ := StepM.ok_of_bind hrun
    exact StepM.ok_of_pure hreturn
  · rw [if_neg hexperimental] at hrun ⊢
    exact StepM.ok_of_pure hrun

theorem generateActuals_extends {factories : List Factory} {actuals : Actuals}
    (hrun : (generateActuals m o factories names).run.run log = (.ok (actuals, names'), log')) :
    names.Extends names' := by
  have hok := generateActuals_ok hrun
  have hgrows := writeActuals_grows m factories names
  split at hok
  · rw [hok] at hgrows
    exact hgrows
  · obtain ⟨-, rfl⟩ := Prod.mk.inj hok
    exact .refl _

/-- The stages of generation: the class, the factories and what stands behind declared
    functions, one after another with the names of the main file. -/
theorem generate_ok {registry' : FactoryRegistry} {files : List SourceFile}
    (hrun : (generate m o registry).run.run log = (.ok (files, registry'), log')) :
    ∃ cls names₁ log₁ enrollment names₂ log₂ actuals final log₃,
      (generateClass m ((writeSourceImports m).run (.empty m.packageName)).2).run.run log
        = (.ok (cls, names₁), log₁)
      ∧ (generateFactories m registry names₁).run.run log₁ = (.ok (enrollment, names₂), log₂)
      ∧ (generateActuals m o enrollment.enrolled names₂).run.run log₂
          = (.ok (actuals, final), log₃)
      ∧ log₃.records ⊆ log'.records ∧ final.package = m.packageName
      ∧ files = mainFile m final cls (actuals.factories.map Factory.function ++ actuals.functions)
          :: actuals.files
      ∧ registry' = enrollment.registry := by
  unfold generate at hrun
  have hstart := writeSourceImports_grows m (.empty m.packageName)
  cases himports : (writeSourceImports m).run (.empty m.packageName) with
  | mk _ names =>
    rw [himports] at hrun hstart
    obtain ⟨⟨cls, names₁⟩, log₁, hclass, hrun⟩ := StepM.ok_of_bind hrun
    obtain ⟨⟨enrollment, names₂⟩, log₂, hfactories, hrun⟩ := StepM.ok_of_bind hrun
    obtain ⟨⟨actuals, final⟩, log₃, hactuals, hrun⟩ := StepM.ok_of_bind hrun
    obtain ⟨_, log₄, hnote, hreturn⟩ := StepM.ok_of_bind hrun
    obtain ⟨hresult, rfl⟩ := Prod.mk.inj hreturn
    cases hresult
    have hgrows : ((.empty m.packageName : ImportTable)).Extends final :=
      ((hstart.trans (generateClass_extends hclass)).trans
        (generateFactories_extends hfactories)).trans (generateActuals_extends hactuals)
    have hrecords := Steady.records ⟨_, Does.raise _ _ _⟩ hnote
    exact ⟨cls, names₁, log₁, enrollment, names₂, log₂, actuals, final, log₃, hclass, hfactories,
      hactuals, hrecords, hgrows.package, rfl, rfl⟩

end Runs

end ClientGen
