/-
  ClientGen/Proofs/Validation/MapRoles.lean
  =========================================
  **Parameters that stand for many entries have the types of entries.**

  Four roles take names with values from one parameter, and each of them is looked after by
  another check.  Whatever else is wrong with an interface, the errors in the words of such a
  role are those of its parameters whose types hold no entries, one for each of them and in
  their order (`map_roles_checked`).

  What a list of findings says about a role (`heard`) is taken apart as the checks put the
  list together; only the check of the role has anything to say about it.
-/
import ClientGen.Proofs.Text.Pieces
import ClientGen.Proofs.Validation.Acceptance
import Mathlib.Data.List.Basic

namespace ClientGen

open ClientGen.Text

/-! ### Types of entries -/

/-- Values of the type are names with values: it is a map or a pair whose first argument is
    text that is never null; where values have to be text, its second argument is text. -/
structure TypeRef.HoldsEntries (t : TypeRef) (stringValues : Bool) : Prop where
  container : t.qualifiedName ∈
    ["kotlin.collections.Map", "kotlin.collections.MutableMap", "kotlin.Pair"]
  key : ∃ k, t.arguments[0]? = some (.type k)
    ∧ k.qualifiedName = "kotlin.String" ∧ k.nullable = false
  value : stringValues = true →
    ∃ v, t.arguments[1]? = some (.type v) ∧ v.qualifiedName = "kotlin.String"

section Types

variable {t : TypeRef}

theorem isSome_container? :
    (MapShape.container? t).isSome = true ↔ t.qualifiedName ∈
      ["kotlin.collections.Map", "kotlin.collections.MutableMap", "kotlin.Pair"] := by
  have hmap : t.isMap = true ↔ t.qualifiedName = "kotlin.collections.Map"
      ∨ t.qualifiedName = "kotlin.collections.MutableMap" := by
    simp [TypeRef.isMap, TypeRef.is, TypeName.map, TypeName.mutableMap]
  have hpair : t.isPair = true ↔ t.qualifiedName = "kotlin.Pair" := by
    simp [TypeRef.isPair, TypeRef.is, TypeName.pair]
  unfold MapShape.container?
  simp only [List.mem_cons, List.not_mem_nil, or_false, ← or_assoc, ← hmap, ← hpair]
  cases t.isMap <;> cases t.isPair <;> decide

theorem any_argument? (i : Nat) (test : TypeRef → Bool) :
    (t.argument? i).any test = true
      ↔ ∃ u, t.arguments[i]? = some (.type u) ∧ test u = true := by
  unfold TypeRef.argument?
  cases t.arguments[i]? with
  | none => simp
  | some argument => cases argument <;> simp

theorem isSome_mapShape? (stringValues : Bool) :
    (MapShape.of? t stringValues).isSome = true ↔ t.HoldsEntries stringValues := by
  have hkey : (t.argument? 0).any TypeRef.isName = true ↔ ∃ k, t.arguments[0]? = some (.type k)
      ∧ k.qualifiedName = "kotlin.String" ∧ k.nullable = false := by
    simp [any_argument?, TypeRef.isName, TypeRef.isString, TypeRef.is, TypeName.string]
  have hvalue : (t.argument? 1).any TypeRef.isString = true
      ↔ ∃ v, t.arguments[1]? = some (.type v) ∧ v.qualifiedName = "kotlin.String" := by
    simp [any_argument?, TypeRef.isString, TypeRef.is, TypeName.string]
  have hshape : (MapShape.of? t stringValues).isSome = true
      ↔ (MapShape.container? t).isSome = true ∧ (t.argument? 0).any TypeRef.isName = true
        ∧ (stringValues = true → (t.argument? 1).any TypeRef.isString = true) := by
    unfold MapShape.of?
    cases MapShape.container? t with
    | none => simp
    | some shape =>
      cases (t.argument? 0).any TypeRef.isName <;> cases stringValues <;>
        cases (t.argument? 1).any TypeRef.isString <;> simp
  rw [hshape, isSome_container?, hkey, hvalue]
  exact ⟨fun ⟨container, key, value⟩ => ⟨container, key, value⟩,
    fun h => ⟨h.container, h.key, h.value⟩⟩

instance (stringValues : Bool) : Decidable (t.HoldsEntries stringValues) :=
  decidable_of_iff _ (isSome_mapShape? stringValues)

end Types

/-! ### Roles -/

/-- The roles that take names with values from one parameter. -/
inductive MapRole where
  | header
  | query
  | field
  | part
deriving DecidableEq, Repr

namespace MapRole

def kind : MapRole → RoleKind
  | .header => .headerMap
  | .query => .queryMap
  | .field => .fieldMap
  | .part => .partMap

/-- What is wrong with a parameter whose type holds no entries. -/
def problem : MapRole → Problem
  | .header => .headerMapType
  | .query => .queryMapType
  | .field => .fieldMapType
  | .part => .partMapType

/-- Values have to be text; only headers ask for that. -/
def stringValues : MapRole → Bool
  | .header => true
  | .query | .field | .part => false

/-- The check that looks after the role. -/
def check : MapRole → Check
  | .header => .headers
  | .query => .queries
  | .field => .formBodies
  | .part => .multipartBodies

/-- The finding is an error in the words of the role. -/
def complains (role : MapRole) (x : Finding) : Bool :=
  x.isError && startsWith x.message role.problem.message

/-- What findings say about the role. -/
def heard (role : MapRole) (fs : List Finding) : List Finding :=
  fs.filter role.complains

/-- What the check of the role finds at parameters with the role. -/
def atParameters (role : MapRole) (c : Context) : List Finding :=
  c.functions.flatMap fun f =>
    f.parameters.flatMap (checkMapRole c f role.kind role.stringValues role.problem)

/-! ### Words -/

/-- The text starts like no complaint about a role. -/
def StartsForeign (text : String) : Prop :=
  ∀ role : MapRole, StartsOtherwise role.problem.message text

theorem StartsForeign.append {text : String} (h : StartsForeign text) (rest : String) :
    StartsForeign (text ++ rest) :=
  fun role => (h role).append rest

/-- The problem is none of a role, and it is not told in words of a method, which can be any. -/
structure IsForeign (problem : Problem) : Prop where
  role : ∀ role : MapRole, problem ≠ role.problem
  method : ∀ method, problem ≠ .bodyNotAllowed method

theorem isForeign_iff {problem : Problem} :
    IsForeign problem ↔ problem ≠ .headerMapType ∧ problem ≠ .queryMapType
      ∧ problem ≠ .fieldMapType ∧ problem ≠ .partMapType
      ∧ ∀ method, problem ≠ .bodyNotAllowed method := by
  constructor
  · intro h
    exact ⟨h.role .header, h.role .query, h.role .field, h.role .part, h.method⟩
  · rintro ⟨header, query, field, part, method⟩
    refine ⟨fun role => ?_, method⟩
    cases role with
    | header => exact header
    | query => exact query
    | field => exact field
    | part => exact part

/-- Messages begin with a literal, and no such literal begins like a complaint about a role. -/
theorem startsForeign_message {problem : Problem} (h : IsForeign problem) :
    StartsForeign problem.message := by
  cases problem with
  | headerMapType => exact (h.role .header rfl).elim
  | queryMapType => exact (h.role .query rfl).elim
  | fieldMapType => exact (h.role .field rfl).elim
  | partMapType => exact (h.role .part rfl).elim
  | bodyNotAllowed method => exact (h.method method rfl).elim
  | _ =>
    -- The words of all roles differ from the first literal; what is written behind it may be any.
    unfold Problem.message
    repeat with_reducible apply StartsForeign.append
    intro role
    cases role <;> exact startsOtherwise_ofList rfl

theorem startsOtherwise_of_ne {role other : MapRole} (h : other ≠ role) :
    StartsOtherwise role.problem.message other.problem.message := by
  cases role <;> cases other <;> first | exact absurd rfl h | exact startsOtherwise_ofList rfl

/-! ### Complaints -/

section Complaints

variable (role : MapRole) (c : Context) (f : FunctionModel) (p : ParameterModel)

theorem complains_eq_false {x : Finding}
    (h : StartsOtherwise role.problem.message x.problem.message) : role.complains x = false := by
  rw [complains, Finding.message, (h.append _).startsWith_eq_false, Bool.and_false]

theorem complains_own : role.complains (c.parameterError f p role.problem) = true := by
  have hown : startsWith role.problem.message role.problem.message = true :=
    startsWith_iff.mpr ⟨"", String.append_empty.symm⟩
  rw [complains, Finding.message, Context.parameterError, Context.onFunction,
    startsWith_append hown]
  rfl

@[simp] theorem heard_nil : role.heard [] = [] := rfl

@[simp] theorem heard_append (fs gs : List Finding) :
    role.heard (fs ++ gs) = role.heard fs ++ role.heard gs :=
  List.filter_append ..

@[simp] theorem heard_flatMap {α : Type} (xs : List α) (g : α → List Finding) :
    role.heard (xs.flatMap g) = xs.flatMap fun x => role.heard (g x) :=
  List.filter_flatMap ..

/-- Checks are heard only through errors in the words of the role. -/
theorem heard_eq_nil {fs : List Finding}
    (h : ∀ x ∈ fs, x.isError = true → IsForeign x.problem) : role.heard fs = [] := by
  rw [heard, List.filter_eq_nil_iff]
  intro x hx hcomplains
  have herror : x.isError = true := (Bool.and_eq_true_iff.mp hcomplains).1
  rw [role.complains_eq_false (startsForeign_message (h x hx herror) role)] at hcomplains
  cases hcomplains

theorem heard_singleton {x : Finding} (h : x.isError = true → IsForeign x.problem) :
    role.heard [x] = [] :=
  role.heard_eq_nil (List.forall_mem_singleton.mpr h)

theorem heard_whenever {b : Bool} {x : Finding} (h : x.isError = true → IsForeign x.problem) :
    role.heard (whenever b x) = [] := by
  cases b with
  | false => rfl
  | true => exact role.heard_singleton h

@[simp] theorem heard_onInterface {b : Bool} {problem : Problem} (h : IsForeign problem) :
    role.heard (whenever b (c.onInterface problem)) = [] :=
  role.heard_whenever fun _ => h

@[simp] theorem heard_error {b : Bool} {problem : Problem} (h : IsForeign problem) :
    role.heard (whenever b (c.error f problem)) = [] :=
  role.heard_whenever fun _ => h

@[simp] theorem heard_parameterError {b : Bool} {problem : Problem} (h : IsForeign problem) :
    role.heard (whenever b (c.parameterError f p problem)) = [] :=
  role.heard_whenever fun _ => h

@[simp] theorem heard_warning {b : Bool} {problem : Problem} :
    role.heard (whenever b (c.warning f problem)) = [] :=
  role.heard_whenever nofun

@[simp] theorem heard_parameterWarning {b : Bool} {problem : Problem} :
    role.heard (whenever b (c.parameterWarning f p problem)) = [] :=
  role.heard_whenever nofun

/-- Only the words of the role itself are heard. -/
theorem heard_checkMapRole (other : MapRole) :
    role.heard (checkMapRole c f other.kind other.stringValues other.problem p)
      = if other = role then checkMapRole c f role.kind role.stringValues role.problem p
        else [] := by
  unfold checkMapRole whenever
  by_cases hother : other = role
  · subst hother
    rw [if_pos rfl]
    split
    · exact List.filter_cons_of_pos (other.complains_own c f p)
    · rfl
  · have hquiet : role.complains (c.parameterError f p other.problem) = false :=
      role.complains_eq_false (startsOtherwise_of_ne hother)
    rw [if_neg hother]
    split
    · exact List.filter_cons_of_neg (by rw [hquiet]; exact Bool.false_ne_true)
    · rfl

end Complaints

/-! ### Checks -/

section Checks

open ClientGen.Validation

variable (role : MapRole) (c : Context)

theorem heard_visibilityFindings (value : String) {problem : String → Problem}
    (h : IsForeign (problem value)) (forbidPrivate : Bool) :
    role.heard (visibilityFindings c value problem forbidPrivate) = [] := by
  have hforeign : IsForeign (.unknownVisibility value) := by simp [isForeign_iff]
  have hunknown : role.heard [c.onInterface (.unknownVisibility value)] = [] :=
    role.heard_singleton fun _ => hforeign
  have hproblem : role.heard [c.onInterface (problem value)] = [] :=
    role.heard_singleton fun _ => h
  unfold visibilityFindings
  split
  · simp [h, hunknown]
  · exact hproblem
  · simp [h]
  · rfl

theorem heard_classLevel : role.heard (classLevel c) = [] := by
  simp [isForeign_iff, classLevel, settingsFindings, ignoredFindings, functionFindings, parameterFindings,
    heard_visibilityFindings, twoKtorGenFinding, heard_whenever]

theorem heard_factories : role.heard (factories c) = [] := by
  simp only [factories, heard_flatMap, List.flatMap_eq_nil_iff]
  intro e _
  unfold factoryFindings
  split
  · exact role.heard_singleton fun _ => by simp [isForeign_iff]
  · exact role.heard_whenever nofun

theorem heard_typeVariables : role.heard (typeVariables c) = [] := by
  simp [isForeign_iff, typeVariables, typeVariableFindings]

theorem heard_returnTypes : role.heard (returnTypes c) = [] := by
  simp [isForeign_iff, returnTypes]

theorem heard_headReturnTypes : role.heard (headReturnTypes c) = [] := by
  simp [isForeign_iff, headReturnTypes]

theorem heard_cookies : role.heard (cookies c) = [] := by
  simp [cookies]

theorem heard_bodies : role.heard (bodies c) = [] := by
  simp [isForeign_iff, bodies, bodyFindings]

theorem heard_placeholderFindings (f : FunctionModel) (placeholder : String) :
    role.heard (placeholderFindings c f placeholder) = [] := by
  have hmissing : IsForeign (.missingPathFor f.httpMethod.path placeholder) := by
    simp [isForeign_iff]
  have htwice : IsForeign (.placeholderBoundTwice f.httpMethod.path placeholder) := by
    simp [isForeign_iff]
  unfold placeholderFindings
  split
  · exact role.heard_singleton fun _ => hmissing
  · rfl
  · exact role.heard_singleton fun _ => htwice

theorem heard_pathParameterFindings (f : FunctionModel) (p : ParameterModel) :
    role.heard (pathParameterFindings c f p) = [] := by
  unfold pathParameterFindings
  split <;> simp [isForeign_iff]

theorem heard_boundPathFindings (f : FunctionModel) :
    role.heard (boundPathFindings c f) = [] := by
  unfold boundPathFindings
  split <;> simp [isForeign_iff, heard_placeholderFindings, heard_pathParameterFindings]

theorem heard_paths : role.heard (paths c) = [] := by
  simp only [paths, heard_flatMap, List.flatMap_eq_nil_iff]
  intro f _
  unfold pathFindings
  split
  · simp [isForeign_iff]
  · exact role.heard_boundPathFindings c f

theorem heard_urlParameterFindings (f : FunctionModel) :
    role.heard (urlParameterFindings c f) = [] := by
  unfold urlParameterFindings
  split <;> simp [isForeign_iff, firstUrlFindings]

theorem heard_fragmentFindings (f : FunctionModel) : role.heard (fragmentFindings c f) = [] := by
  unfold fragmentFindings
  split <;> simp [isForeign_iff]

theorem heard_urls : role.heard (urls c) = [] := by
  simp [isForeign_iff, urls, syntaxFindings, heard_urlParameterFindings, heard_fragmentFindings]

theorem heard_queries : role.heard (queries c) = role.heard (atParameters .query c) := rfl

theorem heard_encodedFindings {s : EncodedStyle} (f : FunctionModel)
    (hempty : IsForeign s.empty) :
    role.heard (encodedFindings s c f)
      = role.heard (f.parameters.flatMap (checkMapRole c f s.map false s.mapType)) := by
  simp [encodedFindings, hempty]

theorem heard_formBodies : role.heard (formBodies c) = role.heard (atParameters .field c) := by
  have hempty : IsForeign formStyle.empty := by simp [isForeign_iff, formStyle]
  simp only [formBodies, atParameters, heard_flatMap, heard_encodedFindings _ _ _ hempty]
  rfl

theorem heard_multipartBodies :
    role.heard (multipartBodies c) = role.heard (atParameters .part c) := by
  have hempty : IsForeign multipartStyle.empty := by simp [isForeign_iff, multipartStyle]
  simp only [multipartBodies, atParameters, heard_flatMap, heard_encodedFindings _ _ _ hempty]
  rfl

theorem heard_contentTypeFindings (f : FunctionModel) :
    role.heard (contentTypeFindings c f) = [] := by
  have himplied : role.heard [c.error f .contentTypeImplied] = [] :=
    role.heard_singleton fun _ => by simp [isForeign_iff, Context.error, Context.onFunction]
  simp only [contentTypeFindings, heard_append]
  split <;> simp [isForeign_iff, himplied]

theorem heard_headerParameterFindings (f : FunctionModel) (p : ParameterModel) :
    role.heard (headerParameterFindings c f p)
      = role.heard (checkMapRole c f .headerMap true .headerMapType p) := by
  have hforeign : IsForeign .badHeader := by simp [isForeign_iff]
  have hblank : role.heard ((p.roles.filter isBlankHeader).map
      fun _ => c.parameterError f p .badHeader) = [] :=
    role.heard_eq_nil (List.forall_mem_map.mpr fun _ _ _ => hforeign)
  rw [headerParameterFindings, heard_append, hblank, List.nil_append]

theorem heard_headers : role.heard (headers c) = role.heard (atParameters .header c) := by
  have hentries : ∀ f : FunctionModel,
      (f.rawHeaders.flatMap fun raw => role.heard (entryFindings c f raw)) = [] := by
    intro f
    simp [isForeign_iff, entryFindings]
  simp only [headers, atParameters, heard_append, heard_flatMap, hentries,
    heard_contentTypeFindings, heard_headerParameterFindings, List.nil_append, List.append_nil]
  rfl

/-- What is said about a role at its parameters is heard for that role only. -/
theorem heard_atParameters (other : MapRole) :
    role.heard (other.atParameters c) = if other = role then role.atParameters c else [] := by
  simp only [atParameters, heard_flatMap, heard_checkMapRole]
  by_cases hother : other = role
  · simp only [if_pos hother]
  · simp [if_neg hother]

/-- Of all checks only the one that looks after a role has something to say about it. -/
theorem heard_findings (check : Check) :
    role.heard (check.findings c) = if check = role.check then role.atParameters c else [] := by
  cases check with
  | classLevel => cases role <;> exact heard_classLevel _ c
  | factories => cases role <;> exact heard_factories _ c
  | typeVariables => cases role <;> exact heard_typeVariables _ c
  | returnTypes => cases role <;> exact heard_returnTypes _ c
  | paths => cases role <;> exact heard_paths _ c
  | urls => cases role <;> exact heard_urls _ c
  | headReturnTypes => cases role <;> exact heard_headReturnTypes _ c
  | bodies => cases role <;> exact heard_bodies _ c
  | cookies => cases role <;> exact heard_cookies _ c
  | queries =>
    rw [Check.findings, heard_queries, heard_atParameters]
    cases role <;> rfl
  | headers =>
    rw [Check.findings, heard_headers, heard_atParameters]
    cases role <;> rfl
  | formBodies =>
    rw [Check.findings, heard_formBodies, heard_atParameters]
    cases role <;> rfl
  | multipartBodies =>
    rw [Check.findings, heard_multipartBodies, heard_atParameters]
    cases role <;> rfl

/-- A whole pipeline says about a role what the role's check says about it. -/
theorem heard_all :
    role.heard (Check.all.flatMap fun check => check.findings c) = role.atParameters c := by
  rw [heard_flatMap]
  simp only [heard_findings]
  cases role <;> simp [Check.all, check]

theorem checkMapRole_eq (f : FunctionModel) (p : ParameterModel) :
    checkMapRole c f role.kind role.stringValues role.problem p
      = if p.hasRole role.kind = true ∧ ¬ p.type.HoldsEntries role.stringValues
        then [c.parameterError f p role.problem] else [] := by
  have hshape : (p.mapShape? role.stringValues).isNone = true
      ↔ ¬ p.type.HoldsEntries role.stringValues := by
    rw [← isSome_mapShape?, ParameterModel.mapShape?, Option.isNone_iff_eq_none,
      Option.not_isSome_iff_eq_none]
  unfold checkMapRole whenever
  simp only [Bool.and_eq_true, hshape]

end Checks

end MapRole

/-! ### All checks together -/

/-- Whatever else the checks find, and whatever the parameters are annotated with besides, the
    errors in the words of a role are one for each parameter that has the role and no type of
    entries: the error of that parameter, in the order of functions and parameters. -/
theorem map_roles_checked (m : InterfaceModel) (o : Options) (role : MapRole) :
    (Check.all.flatMap fun check => check.findings ⟨m, o⟩).filter role.complains
      = m.generatedFunctions.flatMap fun f => f.parameters.flatMap fun p =>
          if p.hasRole role.kind = true ∧ ¬ p.type.HoldsEntries role.stringValues
          then [Context.parameterError ⟨m, o⟩ f p role.problem] else [] := by
  have hall := role.heard_all ⟨m, o⟩
  unfold MapRole.heard at hall
  rw [hall]
  exact List.flatMap_congr fun f _ =>
    List.flatMap_congr fun p _ => role.checkMapRole_eq ⟨m, o⟩ f p

end ClientGen
