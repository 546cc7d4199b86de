/-
  ClientGen/Proofs/Client/Bridging.lean
  =====================================
  **Every declared factory is bridged or reported.**

  A function that is declared `expect` turns the factory of its signature into its
  `actual`, or gets an `actual` of its own, or is the subject of an error (`Settled`).
  Adding one function settles it and unsettles no other (`add_lasts`), so all of them are
  settled in the end.  The parameters of an `actual` are the written forms of the declared
  types, with the names of its file as they are when it is finished.
-/
import ClientGen.Proofs.Client.Places
import ClientGen.Proofs.Validation.Acceptance

namespace ClientGen

open ClientGen.Client ClientGen.Code

/-! ### Signatures -/

/-- In a file with these names the function takes parameters with these displays; a receiver
    takes the place of the first of them. -/
def Takes (final : ImportTable) (g : Code.Function) (displays : List String) : Prop :=
  ∃ (receiver : Option String) (types : List TypeRef),
    displays = receiver.toList ++ types.map TypeRef.display
      ∧ g.receiver.isSome = receiver.isSome
      ∧ List.Forall₂ (fun t (q : Code.Param) => Rendered final t q.type) types g.params

section Model

variable (m : InterfaceModel)

/-- The function constructs the generated class. -/
def Constructs (g : Code.Function) : Prop :=
  ∃ arguments, g.body = [constructorCall m arguments]

/-- The factory is what its key says, in a file with these names. -/
structure Client.Factory.Signed (final : ImportTable) (f : Factory) : Prop where
  home : f.IsHome m
  name : f.function.name = f.key.name
  takes : Takes final f.function f.key.parameterTypes
  constructs : Constructs m f.function

/-- The function stands behind a declared one, in a file with these names. -/
structure Bridges (final : ImportTable) (e : ExpectFunction) (g : Code.Function) : Prop where
  isActual : actualWord ∈ g.modifiers
  name : g.name = e.name
  takes : Takes final g (e.parameters.map fun p => p.2.display)
  constructs : Constructs m g

theorem writeParam_lasts (p : String × TypeRef) :
    Lasts (writeParam p) fun final (q : Code.Param) => Rendered final p.2 q.type := by
  unfold writeParam
  exact (writeType_rendered p.2).bind fun type => Lasts.pure fun final htype => htype

theorem mapM_writeParam_lasts (params : List (String × TypeRef)) :
    Lasts (params.mapM writeParam) fun final qs =>
      List.Forall₂ (fun t (q : Code.Param) => Rendered final t q.type) (params.map Prod.snd) qs := by
  have hall : Lasts (params.mapM writeParam) fun final =>
      List.Forall₂ (fun p (q : Code.Param) => Rendered final p.2 q.type) params :=
    Lasts.mapM fun p _ => writeParam_lasts p
  exact hall.imp fun final qs hqs => List.forall₂_map_left_iff.mpr hqs

theorem writeFactory_lasts (interface : String) (kind : FactoryKind) (name : String)
    (receiver : Option Receiver) (params : List (String × TypeRef)) (arguments : List String) :
    Lasts (writeFactory m interface kind name receiver params arguments) fun final f =>
      f.Signed m final := by
  unfold writeFactory
  refine (Lasts.of_grows (writeFactoryAnnotations_grows m.options)).bind fun annotations => ?_
  refine (mapM_writeParam_lasts params).bind fun written => ?_
  refine Lasts.pure fun final hwritten _ => ⟨rfl, rfl, ?_, arguments, rfl⟩
  refine ⟨receiver.map Receiver.qualified, params.map Prod.snd, ?_, ?_, hwritten⟩
  · rw [List.map_map]
    rfl
  · simp

theorem writeFactories_lasts : Lasts (writeFactories m) fun final factories =>
    ∀ f ∈ factories, f.Signed m final := by
  have hnone : Lasts (pure [] : NameM (List Factory)) fun final factories =>
      ∀ f ∈ factories, f.Signed m final :=
    Lasts.pure fun final f hf => nomatch hf
  have hsingle : ∀ interface kind name receiver params arguments, Lasts (do
        let f ← writeFactory m interface kind name receiver params arguments
        pure [f])
      fun final factories => ∀ f ∈ factories, f.Signed m final := by
    intro interface kind name receiver params arguments
    refine (writeFactory_lasts m interface kind name receiver params arguments).bind fun g => ?_
    refine Lasts.pure fun final hg f hf => ?_
    rw [List.mem_singleton.mp hf]
    exact hg
  have htopLevel : ∀ interface, Lasts (writeTopLevelFactory m interface)
      fun final factories => ∀ f ∈ factories, f.Signed m final := by
    intro interface
    unfold writeTopLevelFactory
    cases m.options.topLevelFactory with
    | none => exact hnone
    | some name => exact hsingle _ _ _ _ _ _
  have hcompanion : ∀ interface, Lasts (writeCompanionFactory m interface)
      fun final factories => ∀ f ∈ factories, f.Signed m final := by
    intro interface
    unfold writeCompanionFactory
    split
    · exact hsingle _ _ _ _ _ _
    · exact hnone
  have hclient : ∀ interface, Lasts (writeClientFactory m interface)
      fun final factories => ∀ f ∈ factories, f.Signed m final := by
    intro interface
    unfold writeClientFactory
    cases m.options.httpClientFactory with
    | none => exact hnone
    | some name =>
      refine (Lasts.of_grows (Grows.name _)).bind fun client => ?_
      exact (hsingle _ _ _ _ _ _).imp fun final factories h _ => h
  unfold writeFactories
  refine (Lasts.of_grows (Grows.name _)).bind fun interface => ?_
  refine (htopLevel interface).bind fun topLevel => ?_
  refine (hcompanion interface).bind fun companion => ?_
  refine (hclient interface).bind fun client => ?_
  refine Lasts.pure fun final hcli hcomp htop _ f hf => ?_
  rw [List.mem_append, List.mem_append] at hf
  rcases hf with (hf | hf) | hf
  · exact htop f hf
  · exact hcomp f hf
  · exact hcli f hf

/-- A function of its own bridges the declared one. -/
theorem writeActual_lasts (e : ExpectFunction) :
    Lasts (writeActual m e) fun final g => Bridges m final e g := by
  unfold writeActual
  refine (Lasts.of_grows (writeFactoryAnnotations_grows m.options)).bind fun annotations => ?_
  refine (Lasts.of_grows (Grows.mapM _ writeMarkedUse_grows)).bind fun copied => ?_
  refine (mapM_writeParam_lasts e.parameters).bind fun params => ?_
  refine (Lasts.of_grows (Grows.type _)).bind fun returnType => ?_
  refine Lasts.pure fun final _ hparams _ _ => ⟨?_, rfl, ?_, _, rfl⟩
  · exact List.mem_cons_of_mem _ List.mem_cons_self
  · exact ⟨none, e.parameters.map Prod.snd, by rw [List.map_map]; rfl, rfl, hparams⟩

/-! ### All declared functions -/

/-- A factory of the interface or a function of its own bridges the declared one, or an
    error was found about it. -/
def Settled (final : ImportTable) (a : Actuals) (e : ExpectFunction) : Prop :=
  (∃ f ∈ a.factories, f.key = expectKey e ∧ actualWord ∈ f.function.modifiers)
    ∨ (e.packageName = m.packageName ∧ ∃ g ∈ a.functions, Bridges m final e g)
    ∨ actualFile m e ∈ a.files
    ∨ ∃ problem, mismatch? m e = some problem ∧ onExpect .error e problem ∈ a.findings

variable {m} in
theorem Client.Factory.Signed.asActual {final : ImportTable} {f : Factory}
    (h : f.Signed m final) : f.asActual.Signed m final :=
  ⟨h.home, h.name, h.takes, h.constructs⟩

variable {m} in
/-- A marked factory with the key of the declared function bridges it. -/
theorem Client.Factory.Signed.bridges {final : ImportTable} {f : Factory} {e : ExpectFunction}
    (h : f.Signed m final) (hkey : f.key = expectKey e)
    (hmarked : actualWord ∈ f.function.modifiers) : Bridges m final e f.function where
  isActual := hmarked
  name := by rw [h.name, hkey]; rfl
  takes := by
    have htakes := h.takes
    rw [hkey] at htakes
    exact htakes
  constructs := h.constructs

/-- Marking a factory, and everything that is added to the lists, unsettles no function. -/
theorem Settled.mono {final : ImportTable} {a a' : Actuals} {e : ExpectFunction}
    (h : Settled m final a e)
    (hfactories : ∀ f ∈ a.factories, f ∈ a'.factories ∨ f.asActual ∈ a'.factories)
    (hfunctions : a.functions ⊆ a'.functions) (hfiles : a.files ⊆ a'.files)
    (hfindings : a.findings ⊆ a'.findings) : Settled m final a' e := by
  rcases h with ⟨f, hf, hkey, hmarked⟩ | ⟨hhome, g, hg, hbridges⟩ | hfile
    | ⟨problem, hproblem, hfinding⟩
  · rcases hfactories f hf with hf | hf
    · exact .inl ⟨f, hf, hkey, hmarked⟩
    · exact .inl ⟨f.asActual, hf, hkey, List.mem_append_left _ hmarked⟩
  · exact .inr (.inl ⟨hhome, g, hfunctions hg, hbridges⟩)
  · exact .inr (.inr (.inl (hfiles hfile)))
  · exact .inr (.inr (.inr ⟨problem, hproblem, hfindings hfinding⟩))

/-- Adding a declared function settles it and unsettles no other one. -/
theorem add_lasts (a : Actuals) (e : ExpectFunction) :
    Lasts (a.add m e) fun final a' =>
      ((∀ f ∈ a.factories, f.Signed m final) → ∀ f ∈ a'.factories, f.Signed m final)
        ∧ Settled m final a' e ∧ ∀ e', Settled m final a e' → Settled m final a' e' := by
  unfold Actuals.add
  split
  · rename_i factory hfactory
    have hkey : factory.key = expectKey e := by simpa using List.find?_some hfactory
    refine Lasts.pure fun final => ⟨fun hsigned f hf => ?_, ?_, fun e' h => ?_⟩
    · rcases mem_markActual hf with hf | ⟨g, hg, rfl⟩
      · exact hsigned f hf
      · exact (hsigned g hg).asActual
    · refine .inl ⟨factory.asActual, asActual_mem_markActual hfactory, hkey, ?_⟩
      exact List.mem_append_right _ List.mem_cons_self
    · exact h.mono m (fun f hf => markActual_mem hf) (List.Subset.refl _) (List.Subset.refl _)
        (List.subset_append_left _ _)
  · have hkept : ∀ f ∈ a.factories, f ∈ a.factories ∨ f.asActual ∈ a.factories :=
      fun f hf => .inl hf
    split
    · rename_i problem hproblem
      refine Lasts.pure fun final => ⟨fun hsigned => hsigned, ?_, fun e' h => ?_⟩
      · exact .inr (.inr (.inr ⟨problem, hproblem, List.mem_append_right _ List.mem_cons_self⟩))
      · exact h.mono m hkept (List.Subset.refl _) (List.Subset.refl _)
          (List.subset_append_left _ _)
    · split
      · rename_i hhome
        refine (writeActual_lasts m e).bind fun g => ?_
        refine Lasts.pure fun final hg => ⟨fun hsigned => hsigned, ?_, fun e' h => ?_⟩
        · exact .inr (.inl ⟨hhome, g, List.mem_append_right _ List.mem_cons_self, hg⟩)
        · exact h.mono m hkept (List.subset_append_left _ _) (List.Subset.refl _)
            (List.Subset.refl _)
      · refine Lasts.pure fun final => ⟨fun hsigned => hsigned, ?_, fun e' h => ?_⟩
        · exact .inr (.inr (.inl (List.mem_append_right _ List.mem_cons_self)))
        · exact h.mono m hkept (List.Subset.refl _) (List.subset_append_left _ _)
            (List.Subset.refl _)

theorem foldlM_add_lasts (es : List ExpectFunction) (a : Actuals) :
    Lasts (es.foldlM (Actuals.add m) a) fun final a' =>
      ((∀ f ∈ a.factories, f.Signed m final) → ∀ f ∈ a'.factories, f.Signed m final)
        ∧ (∀ e ∈ es, Settled m final a' e)
        ∧ ∀ e', Settled m final a e' → Settled m final a' e' := by
  induction es generalizing a with
  | nil => exact Lasts.pure fun final => ⟨fun h => h, fun e he => (nomatch he), fun e' h => h⟩
  | cons e es ih =>
    rw [List.foldlM_cons]
    refine (add_lasts m a e).bind fun between => ?_
    refine (ih between).imp fun final a' hrest hfirst => ?_
    obtain ⟨hsigned, hnew, hold⟩ := hfirst
    obtain ⟨hsignedRest, hnewRest, holdRest⟩ := hrest
    refine ⟨fun h => hsignedRest (hsigned h), ?_, fun e' h => holdRest e' (hold e' h)⟩
    exact List.forall_mem_cons.mpr ⟨holdRest e hnew, hnewRest⟩

/-- In the end every function that is declared `expect` is settled. -/
theorem writeActuals_lasts (factories : List Factory) :
    Lasts (writeActuals m factories) fun final a =>
      ((∀ f ∈ factories, f.Signed m final) → ∀ f ∈ a.factories, f.Signed m final)
        ∧ ∀ e ∈ m.expectFunctions, e.isExpect = true → Settled m final a e := by
  refine (foldlM_add_lasts m _ (.start factories)).imp fun final a h => ⟨h.1, ?_⟩
  intro e he hexpect
  exact h.2.1 e (List.mem_filter.mpr ⟨he, hexpect⟩)

end Model

/-! ### Files -/

section Generation

variable (m : InterfaceModel)

/-- A file of the declared function's package holds a function that stands behind it; the
    names of that file are those of its package and of its import lines. -/
def Bridged (files : List SourceFile) (e : ExpectFunction) : Prop :=
  ∃ file ∈ files, file.package = e.packageName
    ∧ ∃ final : ImportTable, final.package = file.file.package ∧ final.lines = file.file.imports
      ∧ ∃ g ∈ file.file.functions, Bridges m final e g

variable {m} in
theorem Bridged.mono {files files' : List SourceFile} {e : ExpectFunction}
    (h : Bridged m files e) (hfiles : files ⊆ files') : Bridged m files' e := by
  obtain ⟨file, hfile, hbridges⟩ := h
  exact ⟨file, hfiles hfile, hbridges⟩

/-- The record says what keeps the declared function from calling the constructor. -/
structure ReportsMismatch (e : ExpectFunction) (d : Diagnostic) : Prop where
  isError : d.severity = .error
  symbol : d.symbol = some (expectSymbol e)
  message : ∃ problem, mismatch? m e = some problem ∧ d.message = Text.trim problem.message

/-- The file of a foreign function bridges it. -/
theorem actualFile_bridged {files : List SourceFile} {e : ExpectFunction}
    (h : actualFile m e ∈ files) : Bridged m files e := by
  have hwrites : Lasts (writeForeignActual m e) fun final g => Bridges m final e g := by
    unfold writeForeignActual
    refine (writeActual_lasts m e).bind fun g => ?_
    refine (Lasts.of_grows (Grows.name _)).bind fun _ => ?_
    exact Lasts.pure fun final _ hg => hg
  have hholds := hwrites.holds (.empty e.packageName)
  have hgrows := hwrites.grows (.empty e.packageName)
  refine ⟨_, h, ?_⟩
  unfold actualFile
  cases hrun : (writeForeignActual m e).run (.empty e.packageName) with
  | mk g names =>
    rw [hrun] at hholds hgrows
    exact ⟨rfl, names, hgrows.package, rfl, g, List.mem_cons_self, hholds names (.refl names)⟩

variable {m} {o : Options} {registry registry' : FactoryRegistry} {names names' : ImportTable}
  {log log' : Log}

/-- The factories of the main file are signed in the finished file. -/
theorem generateFactories_signed {enrollment : Enrollment} {final : ImportTable}
    (hrun : (generateFactories m registry names).run.run log = (.ok (enrollment, names'), log'))
    (hfinal : names'.Extends final) : ∀ f ∈ enrollment.enrolled, f.Signed m final := by
  obtain ⟨rfl, rfl⟩ := Prod.mk.inj (generateFactories_ok hrun)
  intro f hf
  exact (writeFactories_lasts m).holds names final hfinal f (FactoryRegistry.mem_of_mem_enrolled hf)

/-- What was found about declared functions is in the log afterwards. -/
theorem exists_record_generateActuals {factories : List Factory} {actuals : Actuals}
    (hexperimental : o.experimental = true)
    (hrun : (generateActuals m o factories names).run.run log = (.ok (actuals, names'), log'))
    {f : Finding} (hf : f ∈ actuals.findings) :
    ∃ d ∈ log'.records, d.severity = f.severity ∧ d.message = Text.trim f.message
      ∧ d.symbol = if f.severity = .step then none else f.symbol := by
  unfold generateActuals at hrun
  rw [if_pos hexperimental] at hrun
  obtain ⟨_, recorded, hrecord, hreturn⟩ := StepM.ok_of_bind hrun
  cases hreturn
  exact exists_record_recordAll hf hrecord

/-- When multiplatform factories are asked for, every function that is declared `expect`
    is bridged or an error is recorded about it. -/
theorem generate_bridges {files : List SourceFile} (hexperimental : o.experimental = true)
    (hrun : (generate m o registry).run.run log = (.ok (files, registry'), log'))
    {e : ExpectFunction} (he : e ∈ m.expectFunctions) (hexpect : e.isExpect = true) :
    Bridged m files e ∨ ∃ d ∈ log'.records, ReportsMismatch m e d := by
  obtain ⟨cls, names₁, log₁, enrollment, names₂, log₂, actuals, final, log₃, -, hfactories,
    hactuals, hlater, hpackage, rfl, -⟩ := generate_ok hrun
  have hlasts := (writeActuals_lasts m enrollment.enrolled).holds names₂ final
  have hok := generateActuals_ok hactuals
  rw [if_pos hexperimental] at hok
  rw [hok] at hlasts
  obtain ⟨hsigned, hsettled⟩ := hlasts (.refl final)
  have hmain := hsigned (generateFactories_signed hfactories (generateActuals_extends hactuals))
  -- The functions of the main file are those of the factories and the others at home.
  have hhome : ∀ g ∈ actuals.factories.map Factory.function ++ actuals.functions,
      e.packageName = m.packageName → Bridges m final e g →
        Bridged m (mainFile m final cls
          (actuals.factories.map Factory.function ++ actuals.functions) :: actuals.files) e :=
    fun g hg hpackages hbridges =>
      ⟨_, List.mem_cons_self, hpackages.symm, final, hpackage, rfl, g, hg, hbridges⟩
  rcases hsettled e he hexpect with ⟨f, hf, hkey, hmarked⟩ | ⟨hpackages, g, hg, hbridges⟩
    | hfile | ⟨problem, hproblem, hfinding⟩
  · left
    refine hhome f.function (List.mem_append_left _ (List.mem_map_of_mem hf)) ?_
      ((hmain f hf).bridges hkey hmarked)
    rw [← (hmain f hf).home, hkey]
    rfl
  · exact .inl (hhome g (List.mem_append_right _ hg) hpackages hbridges)
  · exact .inl (actualFile_bridged m (List.mem_cons_of_mem _ hfile))
  · right
    obtain ⟨d, hd, hseverity, hmessage, hsymbol⟩ :=
      exists_record_generateActuals hexperimental hactuals hfinding
    rw [Finding.message_of_unsigned rfl] at hmessage
    exact ⟨d, hlater hd, hseverity, hsymbol, problem, hproblem, hmessage⟩

end Generation

end ClientGen
