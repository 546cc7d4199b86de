/-
  ClientGen/Proofs/Validation/Checked.lean
  ========================================
  **What generation may rely on.**

  The default checks together say more than one of them alone.  `IsChecked` collects what
  they establish about a generated function, and `Accepted.function` is the only place
  that looks into the checks for it.
-/
import ClientGen.Proofs.Validation.PathBinding

namespace ClientGen

open ClientGen.Validation

/-- What the default checks establish about a generated function. -/
structure FunctionModel.IsChecked (f : FunctionModel) : Prop where
  path : PathBound f
  noStar : f.returnType.hasVariableOrStar = false
  contributes : ∀ p ∈ f.parameters, p.roles ≠ [] ∨ p.builder.isSome = true
  roles : ∀ p ∈ f.parameters, hasTooManyRoles p = false
  builders : f.builderParameters.length ≤ 1
  styles : bodyStyles f ≤ 1
  bodies : (f.parametersWith .body).length ≤ 1

/-- What the default checks establish about a function with a parameter that gives the URL. -/
structure FunctionModel.TakesUrl (f : FunctionModel) (p : ParameterModel) : Prop where
  only : f.parametersWith .url = [p]
  single : p.isVararg = false
  notNull : p.type.nullable = false
  noPath : f.parametersWith .path = []
  blank : Text.isBlank (samplePath f.httpMethod.path) = true

/-! ### Visibilities -/

/-- The visibilities that a generated class may have. -/
def Visibility.forClasses : List Visibility :=
  [.publicScope, .internalScope, .privateScope]

/-- The visibilities that constructors and factories may have. -/
def Visibility.forCalls : List Visibility :=
  [.publicScope, .internalScope]

theorem exists_parse?_of_findings {c : Context} {value : String} {problem : String → Problem}
    {forbidPrivate : Bool}
    (h : errorsIn (visibilityFindings c value problem forbidPrivate) = 0) :
    ∃ v ∈ (if forbidPrivate then Visibility.forCalls else Visibility.forClasses),
      Visibility.parse? value = some v := by
  unfold visibilityFindings at h
  cases hvalue : Visibility.parse? value with
  | none =>
    simp only [hvalue, errorsIn_append_eq_zero] at h
    cases h.2
  | some v =>
    refine ⟨v, ?_, rfl⟩
    cases v with
    | protectedScope =>
      simp only [hvalue] at h
      cases h
    | privateScope =>
      simp only [hvalue, errorsIn_onInterface] at h
      rw [h]
      decide
    | internalScope => cases forbidPrivate <;> decide
    | publicScope => cases forbidPrivate <;> decide

/-! ### Generated functions -/

namespace Accepted

variable {m : InterfaceModel} {o : Options} {f : FunctionModel}

theorem path (h : Accepted Check.all m o) (hf : f ∈ m.generatedFunctions) : PathBound f := by
  have hpaths : errorsIn (paths ⟨m, o⟩) = 0 := h .paths (by decide)
  rw [paths, errorsIn_flatMap_eq_zero] at hpaths
  exact (errorsIn_pathFindings ⟨m, o⟩ f).mp (hpaths f hf)

theorem noStar (h : Accepted Check.all m o) (hf : f ∈ m.generatedFunctions) :
    f.returnType.hasVariableOrStar = false := by
  have htypes : errorsIn (typeVariables ⟨m, o⟩) = 0 := h .typeVariables (by decide)
  rw [typeVariables, errorsIn_flatMap_eq_zero] at htypes
  have hf := htypes f hf
  simp only [typeVariableFindings, errorsIn_append_eq_zero, errorsIn_error] at hf
  exact hf.1.2

theorem classLevel (h : Accepted Check.all m o) (hf : f ∈ m.generatedFunctions) :
    (∀ p ∈ f.parameters,
        (p.roles ≠ [] ∨ p.builder.isSome = true) ∧ hasTooManyRoles p = false)
      ∧ f.builderParameters.length ≤ 1 := by
  have hclass : errorsIn (Validation.classLevel ⟨m, o⟩) = 0 := h .classLevel (by decide)
  rw [Validation.classLevel, errorsIn_append_eq_zero, errorsIn_flatMap_eq_zero] at hclass
  have hf := hclass.2 f hf
  simp only [functionFindings, errorsIn_append_eq_zero, errorsIn_error,
    errorsIn_flatMap_eq_zero] at hf
  obtain ⟨⟨-, hparameters⟩, hbuilders⟩ := hf
  refine ⟨fun p hp => ?_, by simpa using hbuilders⟩
  have hp := hparameters p hp
  simp only [parameterFindings, errorsIn_append_eq_zero, errorsIn_parameterError] at hp
  refine ⟨?_, hp.1.1.2⟩
  have hrole := hp.1.1.1
  rw [Bool.and_eq_false_iff] at hrole
  rcases hrole with hroles | hbuilder
  · exact .inl (List.isEmpty_eq_false_iff.mp hroles)
  · exact .inr (by simpa using hbuilder)

theorem bodies (h : Accepted Check.all m o) (hf : f ∈ m.generatedFunctions) :
    bodyStyles f ≤ 1 ∧ (f.parametersWith .body).length ≤ 1 := by
  have hbodies : errorsIn (Validation.bodies ⟨m, o⟩) = 0 := h .bodies (by decide)
  rw [Validation.bodies, errorsIn_flatMap_eq_zero] at hbodies
  have hf := hbodies f hf
  simp only [bodyFindings, errorsIn_append_eq_zero, errorsIn_error] at hf
  obtain ⟨⟨-, hstyles⟩, hbody⟩ := hf
  rw [Bool.or_eq_false_iff] at hbody
  exact ⟨by simpa using hstyles, by simpa using hbody.1⟩

theorem url (h : Accepted Check.all m o) (hf : f ∈ m.generatedFunctions)
    (hurl : f.hasRole .url = true) : ∃ p, f.TakesUrl p := by
  have hurls : errorsIn (Validation.urls ⟨m, o⟩) = 0 := h .urls (by decide)
  rw [Validation.urls, errorsIn_flatMap_eq_zero] at hurls
  have hf := hurls f hf
  simp only [errorsIn_append_eq_zero] at hf
  obtain ⟨⟨hsample, hparameters⟩, -⟩ := hf
  simp only [syntaxFindings, errorsIn_append_eq_zero, errorsIn_error, hurl, Bool.and_true]
    at hsample
  unfold urlParameterFindings at hparameters
  cases hwith : f.parametersWith .url with
  | nil =>
    rw [f.hasRole_eq_isEmpty, hwith] at hurl
    cases hurl
  | cons p ps =>
    rw [hwith] at hparameters
    simp only [firstUrlFindings, errorsIn_append_eq_zero, errorsIn_error, errorsIn_parameterError,
      Bool.or_eq_false_iff] at hparameters
    obtain ⟨⟨hone, hsingle⟩, hnull, hpath⟩ := hparameters
    have hnil : ps = [] := by simpa using hone
    rw [f.hasRole_eq_isEmpty] at hpath
    exact ⟨p, by rw [hwith, hnil], hsingle, hnull, by simpa using hpath, by simpa using hsample.1⟩

/-- A vararg is neither a body nor a URL. -/
theorem vararg (h : Accepted Check.all m o) (hf : f ∈ m.generatedFunctions) {p : ParameterModel}
    (hp : p ∈ f.parameters) (hvararg : p.isVararg = true) :
    p.hasRole .body = false ∧ p.hasRole .url = false := by
  constructor
  · have hbodies : errorsIn (Validation.bodies ⟨m, o⟩) = 0 := h .bodies (by decide)
    rw [Validation.bodies, errorsIn_flatMap_eq_zero] at hbodies
    have hf := hbodies f hf
    simp only [bodyFindings, errorsIn_append_eq_zero, errorsIn_error, Bool.or_eq_false_iff] at hf
    cases hbody : p.hasRole .body with
    | false => rfl
    | true =>
      have hnone := List.any_eq_false.mp hf.2.2 p (List.mem_filter.mpr ⟨hp, hbody⟩)
      exact absurd hvararg hnone
  · cases hurl : p.hasRole .url with
    | false => rfl
    | true =>
      obtain ⟨q, hq⟩ := h.url hf (List.any_eq_true.mpr ⟨p, hp, hurl⟩)
      have hmem : p ∈ f.parametersWith .url := List.mem_filter.mpr ⟨hp, hurl⟩
      rw [hq.only, List.mem_singleton] at hmem
      rw [hmem, hq.single] at hvararg
      cases hvararg

/-- Every header entry has a name and a value, and the content type is given at most once and
    never beside a form or a multipart body. -/
theorem headers (h : Accepted Check.all m o) (hf : f ∈ m.generatedFunctions) :
    (∀ raw ∈ f.rawHeaders,
        Text.isBlank (headerParts raw).1 = false ∧ Text.isBlank (headerParts raw).2 = false)
      ∧ contentTypeCount f ≤ 1
      ∧ ((f.isFormUrl || f.isMultipart) = true → contentTypeCount f = 0) := by
  have hheaders : errorsIn (Validation.headers ⟨m, o⟩) = 0 := h .headers (by decide)
  rw [Validation.headers, errorsIn_flatMap_eq_zero] at hheaders
  have hf := hheaders f hf
  simp only [errorsIn_append_eq_zero, errorsIn_flatMap_eq_zero] at hf
  obtain ⟨⟨hentries, -⟩, htypes⟩ := hf
  constructor
  · intro raw hraw
    have hentry := hentries raw hraw
    simp only [entryFindings, errorsIn_error, Bool.or_eq_false_iff] at hentry
    exact hentry
  · simp only [contentTypeFindings, errorsIn_append_eq_zero, errorsIn_warning, and_true] at htypes
    split at htypes
    · cases htypes
    · rename_i himplied
      have hone : contentTypeCount f ≤ 1 := by simpa using htypes
      refine ⟨hone, fun hstyle => ?_⟩
      simpa [hstyle] using himplied

theorem function (h : Accepted Check.all m o) (hf : f ∈ m.generatedFunctions) :
    f.IsChecked where
  path := h.path hf
  noStar := h.noStar hf
  contributes := fun p hp => ((h.classLevel hf).1 p hp).1
  roles := fun p hp => ((h.classLevel hf).1 p hp).2
  builders := (h.classLevel hf).2
  styles := (h.bodies hf).1
  bodies := (h.bodies hf).2

theorem visibilities (h : Accepted Check.all m o) :
    (∃ v ∈ Visibility.forClasses, Visibility.parse? m.options.classVisibility = some v)
      ∧ (∃ v ∈ Visibility.forCalls, Visibility.parse? m.options.constructorVisibility = some v)
      ∧ ∃ v ∈ Visibility.forCalls, Visibility.parse? m.options.functionVisibility = some v := by
  have hclass : errorsIn (Validation.classLevel ⟨m, o⟩) = 0 := h .classLevel (by decide)
  simp only [Validation.classLevel, settingsFindings, errorsIn_append_eq_zero] at hclass
  obtain ⟨⟨⟨⟨⟨⟨⟨⟨hclass, hconstructor⟩, hfactory⟩, -⟩, -⟩, -⟩, -⟩, -⟩, -⟩ := hclass
  exact ⟨exists_parse?_of_findings hclass, exists_parse?_of_findings hconstructor,
    exists_parse?_of_findings hfactory⟩

theorem companion (h : Accepted Check.all m o) :
    (m.options.companionFactory.isSome && m.companion.isNone) = false := by
  have hclass : errorsIn (Validation.classLevel ⟨m, o⟩) = 0 := h .classLevel (by decide)
  simp only [Validation.classLevel, settingsFindings, errorsIn_append_eq_zero,
    errorsIn_onInterface] at hclass
  have hmissing := hclass.1.1.1.2
  unfold InterfaceModel.hasCompanion at hmissing
  rw [Option.not_isSome] at hmissing
  exact hmissing

/-- No abstract function is left out. -/
theorem generate_of_isAbstract (h : Accepted Check.all m o) (hf : f ∈ m.functions)
    (habstract : f.isAbstract = true) : f.generate = true := by
  have hclass : errorsIn (Validation.classLevel ⟨m, o⟩) = 0 := h .classLevel (by decide)
  simp only [Validation.classLevel, errorsIn_append_eq_zero, errorsIn_flatMap_eq_zero] at hclass
  have hignored := hclass.1.2 f hf
  rw [ignoredFindings, errorsIn_error, habstract, Bool.true_and] at hignored
  simpa using hignored

end Accepted

end ClientGen
