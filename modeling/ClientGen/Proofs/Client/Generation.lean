/-
  ClientGen/Proofs/Client/Generation.lean
  =======================================
  **Which models are generated.**

  Generation fails of a function without a plan and of a companion factory without a
  companion, and of nothing else (`generate_returns`, `generate_fails`).  An accepted
  model has its companion and its paths are bound, so the return types alone decide:
  a result or a stream without an argument has no plan, and no check looks for it.
-/
import ClientGen.Client.Generation
import ClientGen.Proofs.Model.ReturnTypes
import ClientGen.Proofs.Request.PathWriting
import ClientGen.Proofs.Validation.Checked

namespace ClientGen

open ClientGen.Client ClientGen.Request ClientGen.Validation

/-! ### Plans -/

theorem requestUse_leaf (t : TypeRef) : ∃ use, RequestUse.of? (.leaf t) = some use := by
  unfold ReturnKind.leaf
  split
  · exact ⟨.execute none, rfl⟩
  · exact ⟨.execute (some t), rfl⟩

theorem bodyPlan_leaf (t : TypeRef) : ∃ body, BodyPlan.of? (.leaf t) = some body := by
  unfold ReturnKind.leaf
  split
  · exact ⟨.direct (.execute none), rfl⟩
  · exact ⟨.direct (.execute (some t)), rfl⟩

theorem bodyPlan_ofResult {inner : Option TypeRef} (h : ReturnKind.ofResult inner ≠ .unsupported) :
    ∃ body, BodyPlan.of? (.ofResult inner) = some body := by
  cases inner with
  | none => exact (h rfl).elim
  | some t =>
    simp only [ReturnKind.ofResult]
    split
    · exact ⟨.captured .describe, rfl⟩
    · split
      · exact ⟨.captured .prepare, rfl⟩
      · obtain ⟨use, huse⟩ := requestUse_leaf t
        exact ⟨.captured use, by rw [BodyPlan.of?, huse]; rfl⟩

theorem streamPlan_leaf (t : TypeRef) : ∃ body, BodyPlan.of? (.flow (.leaf t)) = some body := by
  unfold ReturnKind.leaf
  split
  · exact ⟨.streamed none, rfl⟩
  · exact ⟨.streamed (some t), rfl⟩

theorem bodyPlan_ofFlow {item : Option TypeRef} (h : ReturnKind.ofFlow item ≠ .unsupported) :
    ∃ body, BodyPlan.of? (.ofFlow item) = some body := by
  cases item with
  | none => exact (h rfl).elim
  | some t =>
    simp only [ReturnKind.ofFlow] at h ⊢
    split
    · rename_i hresult
      rw [if_pos hresult] at h
      cases hinner : t.argument? 0 with
      | none => rw [hinner] at h; exact (h rfl).elim
      | some u =>
        obtain ⟨use, huse⟩ := requestUse_leaf u
        refine ⟨.streamedCapture use, ?_⟩
        simp only [BodyPlan.of?, BodyPlan.ofStream?, huse, Option.map_some]
    · exact streamPlan_leaf t

/-- Only the kind of a bare type has no plan. -/
theorem bodyPlan_classify {t : TypeRef} (h : ReturnKind.classify t ≠ .unsupported) :
    ∃ body, BodyPlan.of? (.classify t) = some body := by
  unfold ReturnKind.classify at h ⊢
  split
  · rename_i hflow
    rw [if_pos hflow] at h
    exact bodyPlan_ofFlow h
  · rename_i hflow
    rw [if_neg hflow] at h
    split
    · rename_i hresult
      rw [if_pos hresult] at h
      exact bodyPlan_ofResult h
    · split
      · exact ⟨.direct .describe, rfl⟩
      · split
        · exact ⟨.direct .prepare, rfl⟩
        · exact bodyPlan_leaf t

section Plan

variable {f : FunctionModel} {basePath : String}

/-- A checked function has a plan unless its return type is bare. -/
theorem planOverride_ok (hread : f.IsRead basePath) (hchecked : f.IsChecked)
    (hbare : ¬ f.returnType.Bare) : ∃ plan, planOverride f = .ok plan := by
  obtain ⟨pieces, hpath, -⟩ := bindPath_eq_ok hchecked.path
  have hkind : ReturnKind.classify f.returnType ≠ .unsupported := fun hunsupported =>
    hbare ((ReturnKind.classify_eq_unsupported hchecked.noStar).mp hunsupported)
  obtain ⟨body, hbody⟩ := bodyPlan_classify hkind
  refine ⟨⟨pieces, body⟩, ?_⟩
  simp only [planOverride, hpath, hread.returnKind, hbody]

theorem planOverride_error (hread : f.IsRead basePath) (hchecked : f.IsChecked)
    (hbare : f.returnType.Bare) : planOverride f = .error (unplannedBody f) := by
  obtain ⟨pieces, hpath, -⟩ := bindPath_eq_ok hchecked.path
  have hkind := (ReturnKind.classify_eq_unsupported hchecked.noStar).mpr hbare
  simp only [planOverride, hpath, hread.returnKind, hkind]
  rfl

end Plan

/-! ### Overrides -/

theorem recordAll_returns (fs : List Finding) : Returns (recordAll fs) :=
  ⟨(), _, recordAll_does fs⟩

section Generation

variable (m : InterfaceModel) (o : Options) (registry : FactoryRegistry) (names : ImportTable)

theorem generateOverride_returns {f : FunctionModel} {plan : OverridePlan}
    (h : planOverride f = .ok plan) : Returns (generateOverride m names f) := by
  unfold generateOverride
  rw [h]
  apply Returns.task
  have hnote : Returns (StepM.note ("Generated " ++ f.signature m.simpleName none)) :=
    ⟨(), _, note_does _⟩
  exact (Returns.pure plan).bind fun _ => hnote.bind fun _ => Returns.pure _

theorem generateOverride_fails {f : FunctionModel} {e : Fatal} (h : planOverride f = .error e) :
    Fails (generateOverride m names f) e := by
  unfold generateOverride
  rw [h]
  apply Fails.task
  exact Fails.bind ⟨[], Does.throw e⟩

theorem generateOverrides_returns {fs : List FunctionModel}
    (h : ∀ f ∈ fs, ∃ plan, planOverride f = .ok plan) :
    Returns (generateOverrides m names fs) := by
  induction fs generalizing names with
  | nil => exact Returns.pure _
  | cons f fs ih =>
    obtain ⟨hf, hfs⟩ := List.forall_mem_cons.mp h
    obtain ⟨plan, hplan⟩ := hf
    refine (generateOverride_returns m names hplan).bind fun first => ?_
    exact (ih first.2 hfs).bind fun rest => Returns.pure _

/-- The first function without a plan ends the writing of overrides. -/
theorem generateOverrides_fails {fs : List FunctionModel}
    (h : ∃ f ∈ fs, ∃ e, planOverride f = .error e) :
    ∃ f ∈ fs, ∃ e, planOverride f = .error e ∧ ∀ names, Fails (generateOverrides m names fs) e := by
  induction fs with
  | nil =>
    obtain ⟨f, hf, -⟩ := h
    cases hf
  | cons f fs ih =>
    cases hplan : planOverride f with
    | error e =>
      refine ⟨f, List.mem_cons_self, e, hplan, fun names => ?_⟩
      exact (generateOverride_fails m names hplan).bind
    | ok plan =>
      obtain ⟨g, hg, e, he⟩ := h
      rcases List.mem_cons.mp hg with rfl | hg
      · rw [hplan] at he
        cases he
      · obtain ⟨g', hg', e', he', hfails⟩ := ih ⟨g, hg, e, he⟩
        refine ⟨g', List.mem_cons_of_mem _ hg', e', he', fun names => ?_⟩
        exact Fails.after (generateOverride_returns m names hplan) fun first =>
          (hfails first.2).bind

/-! ### Files -/

theorem generateClass_returns
    (h : ∀ f ∈ m.generatedFunctions, ∃ plan, planOverride f = .ok plan) :
    Returns (generateClass m names) :=
  (generateOverrides_returns m _ h).bind fun _ => Returns.pure _

theorem generateClass_fails {e : Fatal}
    (h : ∀ names, Fails (generateOverrides m names m.generatedFunctions) e) :
    Fails (generateClass m names) e :=
  (h _).bind

theorem generateFactories_returns
    (h : (m.options.companionFactory.isSome && m.companion.isNone) = false) :
    Returns (generateFactories m registry names) := by
  unfold generateFactories
  simp only [h, Bool.false_eq_true, if_false]
  exact (recordAll_returns _).bind fun _ => Returns.pure _

theorem generateFactories_fails
    (h : (m.options.companionFactory.isSome && m.companion.isNone) = true) :
    Fails (generateFactories m registry names) (companionMissing m) := by
  unfold generateFactories
  simp only [h, if_true]
  exact Fails.bind ⟨[], Does.throw _⟩

theorem generateActuals_returns (factories : List Factory) :
    Returns (generateActuals m o factories names) := by
  unfold generateActuals
  by_cases hexperimental : o.experimental = true
  · rw [if_pos hexperimental]
    exact (recordAll_returns _).bind fun _ => Returns.pure _
  · rw [if_neg hexperimental]
    exact Returns.pure _

/-- With a plan for every function and a companion for its factory, generation returns. -/
theorem generate_returns (hplans : ∀ f ∈ m.generatedFunctions, ∃ plan, planOverride f = .ok plan)
    (hcompanion : (m.options.companionFactory.isSome && m.companion.isNone) = false) :
    Returns (generate m o registry) := by
  unfold generate
  refine (generateClass_returns m _ hplans).bind fun c => ?_
  refine (generateFactories_returns m registry c.2 hcompanion).bind fun enrollment => ?_
  refine (generateActuals_returns m o enrollment.2 _).bind fun actuals => ?_
  have hnote : ∀ text, Returns (StepM.note text) := fun text => ⟨(), _, note_does text⟩
  exact (hnote _).bind fun _ => Returns.pure _

theorem generate_fails (h : ∃ f ∈ m.generatedFunctions, ∃ e, planOverride f = .error e) :
    ∃ f ∈ m.generatedFunctions, ∃ e, planOverride f = .error e
      ∧ Fails (generate m o registry) e := by
  obtain ⟨f, hf, e, he, hfails⟩ := generateOverrides_fails m h
  exact ⟨f, hf, e, he, (generateClass_fails m _ hfails).bind⟩

theorem planned_or_not (fs : List FunctionModel) :
    (∀ f ∈ fs, ∃ plan, planOverride f = .ok plan)
      ∨ ∃ f ∈ fs, ∃ e, planOverride f = .error e := by
  by_cases h : ∃ f ∈ fs, ∃ e, planOverride f = .error e
  · exact .inr h
  · refine .inl fun f hf => ?_
    cases hplan : planOverride f with
    | ok plan => exact ⟨plan, rfl⟩
    | error e => exact (h ⟨f, hf, e, hplan⟩).elim

theorem generateClass_steady : Steady (generateClass m names) := by
  rcases planned_or_not m.generatedFunctions with hplans | hunplanned
  · exact (generateClass_returns m names hplans).steady
  · obtain ⟨f, hf, e, he, hfails⟩ := generateOverrides_fails m hunplanned
    exact (generateClass_fails m names hfails).steady

theorem generateFactories_steady : Steady (generateFactories m registry names) := by
  cases hcompanion : m.options.companionFactory.isSome && m.companion.isNone with
  | false => exact (generateFactories_returns m registry names hcompanion).steady
  | true => exact (generateFactories_fails m registry names hcompanion).steady

theorem generate_steady : Steady (generate m o registry) := by
  unfold generate
  refine (generateClass_steady m _).bind fun c => ?_
  refine (generateFactories_steady m registry c.2).bind fun enrollment => ?_
  refine (generateActuals_returns m o enrollment.2 _).steady.bind fun actuals => ?_
  exact Steady.bind ⟨_, note_does _⟩ fun _ => ⟨_, Does.pure _⟩

end Generation

/-! ### Accepted models -/

/-- An accepted model is generated exactly when no function returns a bare type.  Such a
    function is the only thing that generation fails of. -/
theorem accepted_generates_iff {c : ClassDeclaration} {factories : List FunctionDeclaration}
    {m m' : InterfaceModel} {o : Options} {log log' vlog vlog' : Log}
    (hextract : (c.extract factories).run.run log = (.ok (.ready m), log'))
    (hvalidate : (validate Check.all m o).run.run vlog = (.ok (some m'), vlog'))
    (registry : FactoryRegistry) (glog : Log) :
    m' = m
      ∧ ((∃ files, ((generate m' o registry).run.run glog).1 = .ok files)
          ↔ ∀ f ∈ m'.generatedFunctions, ¬ f.returnType.Bare)
      ∧ ∀ failure, ((generate m' o registry).run.run glog).1 = .error failure
          → ∃ f ∈ m'.generatedFunctions, f.returnType.Bare ∧ failure = unplannedBody f := by
  obtain ⟨rfl, haccepted⟩ := accepted_of_validate hvalidate
  have hread : ∀ f ∈ m'.generatedFunctions, f.IsRead m'.options.basePath := by
    intro f hf
    have hm : m'.IsExtracted := ⟨c, factories, log, log', hextract⟩
    exact hm.isRead (List.mem_filter.mp hf).1
  refine ⟨rfl, ?_⟩
  by_cases hbare : ∃ f ∈ m'.generatedFunctions, f.returnType.Bare
  · obtain ⟨g, hg, hgbare⟩ := hbare
    have hunplanned := planOverride_error (hread g hg) (haccepted.function hg) hgbare
    obtain ⟨f, hf, e, he, hfails⟩ :=
      generate_fails m' o registry ⟨g, hg, _, hunplanned⟩
    have hresult := hfails.result glog
    -- The function that ends generation is bare itself: the others have plans.
    have hfbare : f.returnType.Bare := by
      by_contra hplanned
      obtain ⟨plan, hplan⟩ := planOverride_ok (hread f hf) (haccepted.function hf) hplanned
      rw [hplan] at he
      cases he
    rw [planOverride_error (hread f hf) (haccepted.function hf) hfbare] at he
    cases he
    rw [hresult]
    constructor
    · constructor
      · rintro ⟨files, hfiles⟩
        cases hfiles
      · intro hnone
        exact (hnone g hg hgbare).elim
    · intro failure hfailure
      cases hfailure
      exact ⟨f, hf, hfbare, rfl⟩
  · have hplanned : ∀ f ∈ m'.generatedFunctions, ¬ f.returnType.Bare :=
      fun f hf hfbare => hbare ⟨f, hf, hfbare⟩
    have hreturns := generate_returns m' o registry
      (fun f hf => planOverride_ok (hread f hf) (haccepted.function hf) (hplanned f hf))
      haccepted.companion
    obtain ⟨files, hfiles⟩ := hreturns.result glog
    rw [hfiles]
    constructor
    · exact ⟨fun _ => hplanned, fun _ => ⟨files, rfl⟩⟩
    · intro failure hfailure
      cases hfailure

/-- An interface whose only function returns a result of nothing in particular. -/
def InterfaceModel.ofBareResult : InterfaceModel :=
  .holding "Items" [.getting "items" [] (.named TypeName.result)]

theorem ofBareResult_isExtracted : InterfaceModel.ofBareResult.IsExtracted :=
  InterfaceModel.holding_isExtracted (by decide +kernel)

theorem ofBareResult_accepted : Accepted Check.all InterfaceModel.ofBareResult .default :=
  errorsOf_eq_zero.mp (by decide +kernel)

/-- The failure of the interface names its only function. -/
theorem accepted_generates_iff_of_bare_result :
    ∃ f ∈ InterfaceModel.ofBareResult.generatedFunctions, f.returnType.Bare
      ∧ ((generate InterfaceModel.ofBareResult .default .empty).run.run (.opened "")).1
          = .error (unplannedBody f) := by
  obtain ⟨c, factories, log, log', hextract⟩ := ofBareResult_isExtracted
  obtain ⟨vlog', hvalidate⟩ := validate_of_accepted rfl ofBareResult_accepted (.opened "")
  obtain ⟨-, -, hfailures⟩ :=
    accepted_generates_iff hextract hvalidate .empty (.opened "")
  have hfailed : ((generate InterfaceModel.ofBareResult .default .empty).run.run
      (.opened "")).1.toOption.isNone = true := by
    decide +kernel
  cases hresult : ((generate InterfaceModel.ofBareResult .default .empty).run.run
      (.opened "")).1 with
  | ok files => rw [hresult] at hfailed; cases hfailed
  | error failure =>
    obtain ⟨f, hf, hbare, rfl⟩ := hfailures failure hresult
    exact ⟨f, hf, hbare, rfl⟩

/-- Acceptance alone does not make a model generate. -/
theorem accepted_may_fail : ¬ ∀ (c : ClassDeclaration) (factories : List FunctionDeclaration)
    (m : InterfaceModel) (o : Options) (registry : FactoryRegistry)
    (log log' vlog vlog' glog : Log),
    (c.extract factories).run.run log = (.ok (.ready m), log')
      → (validate Check.all m o).run.run vlog = (.ok (some m), vlog')
      → ∃ files, ((generate m o registry).run.run glog).1 = .ok files := by
  intro hall
  obtain ⟨c, factories, log, log', hextract⟩ := ofBareResult_isExtracted
  obtain ⟨vlog', hvalidate⟩ := validate_of_accepted rfl ofBareResult_accepted (.opened "")
  obtain ⟨files, hfiles⟩ := hall c factories _ .default .empty log log' (.opened "") vlog'
    (.opened "") hextract hvalidate
  have hfailed : ((generate InterfaceModel.ofBareResult .default .empty).run.run
      (.opened "")).1.toOption.isNone = true := by
    decide +kernel
  rw [hfiles] at hfailed
  cases hfailed

end ClientGen
