/-
  ClientGen/Proofs/Validation/PathBinding.lean
  ============================================
  **What the check of a path establishes.**

  The path parameters of a function bind its path when they are the placeholders, one
  parameter for each.  The check looks at placeholders and at parameters apart from each
  other; counting how often a name is bound shows that it reports nothing exactly when
  the path is bound (`errorsIn_pathFindings`).
-/
import ClientGen.Proofs.Ascending
import ClientGen.Proofs.Model.Roles
import ClientGen.Proofs.Validation.Acceptance
import Mathlib.Data.List.Count

namespace ClientGen.Validation

open ClientGen.Path

/-! ### Names that are bound -/

/-- The path parameters of a function and the placeholders of its path are the same. -/
structure PathBound (f : FunctionModel) : Prop where
  distinct : f.path.placeholders.Nodup
  notNull : ∀ p ∈ f.parametersWith .path, p.type.nullable = false
  /-- Every path parameter binds a placeholder of its own, and no placeholder is left. -/
  bijection : ((f.parametersWith .path).map boundName?).Perm (f.path.placeholders.map some)

/-- The names that the parameters of a function bind. -/
def boundNames (f : FunctionModel) : List String :=
  f.parameters.filterMap boundName?

/-- The first path role of a parameter names what it binds. -/
theorem role?_path (p : ParameterModel) :
    p.role? .path = none ∨ ∃ name encoded, p.role? .path = some (.path name encoded) := by
  cases hrole : p.role? .path with
  | none => exact .inl rfl
  | some r =>
    have hkind := ParameterModel.kind_of_role? hrole
    cases r with
    | path name encoded => exact .inr ⟨name, encoded, rfl⟩
    | _ => cases hkind

theorem isSome_boundName? (p : ParameterModel) : (boundName? p).isSome = p.hasRole .path := by
  rw [← p.isSome_role?]
  unfold boundName?
  rcases role?_path p with hrole | ⟨name, encoded, hrole⟩
  · rw [hrole]; rfl
  · rw [hrole]; rfl

theorem boundName?_eq_some {p : ParameterModel} {name : String} :
    boundName? p = some name ↔ ∃ encoded, p.role? .path = some (.path name encoded) := by
  unfold boundName?
  rcases role?_path p with hrole | ⟨n, encoded, hrole⟩
  · simp [hrole]
  · simp [hrole]

theorem map_boundName? (f : FunctionModel) :
    (f.parametersWith .path).map boundName? = (boundNames f).map some := by
  unfold FunctionModel.parametersWith boundNames
  induction f.parameters with
  | nil => rfl
  | cons p ps ih =>
    have hrole := isSome_boundName? p
    cases hname : boundName? p with
    | none =>
      rw [hname] at hrole
      simp only [List.filter_cons, ← hrole, Option.isSome_none, Bool.false_eq_true, if_false,
        List.filterMap_cons, hname, ih]
    | some name =>
      rw [hname] at hrole
      simp only [List.filter_cons, ← hrole, Option.isSome_some, if_true, List.map_cons,
        List.filterMap_cons, hname, ih]

theorem hasRole_path (f : FunctionModel) : f.hasRole .path = !(boundNames f).isEmpty := by
  unfold FunctionModel.hasRole boundNames
  induction f.parameters with
  | nil => rfl
  | cons p ps ih =>
    have hrole := isSome_boundName? p
    cases hname : boundName? p with
    | none => simp [List.any_cons, ← hrole, hname, ih]
    | some name => simp [List.any_cons, ← hrole, hname]

theorem bindingCount_eq_count (f : FunctionModel) (name : String) :
    bindingCount f name = (boundNames f).count name := by
  unfold bindingCount boundNames
  rw [List.count_filterMap, List.countP_eq_length_filter]

/-- Two lists of names, the second without repetitions, hold the same names when every name
    of the second stands once in the first and the first holds no other. -/
theorem perm_iff_count {xs ys : List String} (hys : ys.Nodup) :
    xs.Perm ys ↔ (∀ y ∈ ys, xs.count y = 1) ∧ ∀ x ∈ xs, x ∈ ys := by
  constructor
  · intro hperm
    refine ⟨fun y hy => ?_, fun x hx => hperm.subset hx⟩
    rw [hperm.count_eq y, List.count_eq_one_of_mem hys hy]
  · rintro ⟨hone, hsubset⟩
    rw [List.perm_iff_count]
    intro x
    by_cases hx : x ∈ ys
    · rw [hone x hx, List.count_eq_one_of_mem hys hx]
    · rw [List.count_eq_zero_of_not_mem hx,
        List.count_eq_zero_of_not_mem fun hmem => hx (hsubset x hmem)]

theorem bijection_iff (f : FunctionModel) :
    ((f.parametersWith .path).map boundName?).Perm (f.path.placeholders.map some)
      ↔ (boundNames f).Perm f.path.placeholders := by
  rw [map_boundName?]
  exact List.map_perm_map_iff fun _ _ => Option.some.inj

/-! ### Findings -/

section Context

variable (c : Context) (f : FunctionModel)

theorem errorsIn_placeholderFindings (placeholder : String) :
    errorsIn (placeholderFindings c f placeholder) = 0
      ↔ (boundNames f).count placeholder = 1 := by
  unfold placeholderFindings
  rw [← bindingCount_eq_count]
  split
  · rename_i hnone
    rw [errorsIn_singleton rfl, hnone]
    decide
  · rename_i hone
    simp [hone]
  · rename_i hseveral
    rw [errorsIn_singleton rfl]
    exact iff_of_false Nat.one_ne_zero hseveral

theorem errorsIn_pathParameterFindings (p : ParameterModel) :
    errorsIn (pathParameterFindings c f p) = 0
      ↔ ∀ name, boundName? p = some name
        → p.type.nullable = false ∧ name ∈ f.path.placeholders := by
  unfold pathParameterFindings
  cases hname : boundName? p with
  | none => simp
  | some name => simp

/-- The check of bound paths asks for all of it, one part at a time. -/
theorem errorsIn_boundPathFindings :
    errorsIn (boundPathFindings c f) = 0
      ↔ boundNames f ≠ [] ∧ f.path.placeholders.Nodup
        ∧ (∀ name ∈ f.path.placeholders, (boundNames f).count name = 1)
        ∧ ∀ p ∈ f.parameters, ∀ name, boundName? p = some name
          → p.type.nullable = false ∧ name ∈ f.path.placeholders := by
  have hpresent : ((!f.hasRole .path) = false) ↔ boundNames f ≠ [] := by
    simp [hasRole_path]
  have hdistinct : ((Ascending.ofNames f.path.placeholders).length != f.path.placeholders.length)
      = false ↔ f.path.placeholders.Nodup := by
    rw [bne_eq_false_iff_eq, Ascending.length_ofNames]
  unfold boundPathFindings
  simp only [errorsIn_append_eq_zero, errorsIn_error, errorsIn_flatMap_eq_zero,
    errorsIn_pathParameterFindings, hpresent, hdistinct, and_assoc]
  refine and_congr_right fun hnames => and_congr_right fun _ => and_congr_left fun _ => ?_
  rw [if_pos (by simpa [hasRole_path] using hnames), errorsIn_flatMap_eq_zero]
  simp only [errorsIn_placeholderFindings, Ascending.mem_ofNames]

/-- What every parameter has to satisfy is what every path parameter and every bound name
    has to satisfy. -/
theorem forall_boundName?_iff :
    (∀ p ∈ f.parameters, ∀ name, boundName? p = some name
        → p.type.nullable = false ∧ name ∈ f.path.placeholders)
      ↔ (∀ p ∈ f.parametersWith .path, p.type.nullable = false)
        ∧ ∀ name ∈ boundNames f, name ∈ f.path.placeholders := by
  constructor
  · intro h
    constructor
    · intro p hp
      obtain ⟨hmem, hrole⟩ := List.mem_filter.mp hp
      obtain ⟨name, hname⟩ := Option.isSome_iff_exists.mp ((isSome_boundName? p).trans hrole)
      exact (h p hmem name hname).1
    · intro name hmem
      obtain ⟨p, hp, hname⟩ := List.mem_filterMap.mp hmem
      exact (h p hp name hname).2
  · rintro ⟨hnull, hmem⟩ p hp name hname
    refine ⟨hnull p (List.mem_filter.mpr ⟨hp, ?_⟩), hmem name ?_⟩
    · rw [← isSome_boundName?, hname]
      rfl
    · exact List.mem_filterMap.mpr ⟨p, hp, hname⟩

theorem errorsIn_pathFindings : errorsIn (pathFindings c f) = 0 ↔ PathBound f := by
  have hbound : PathBound f ↔ f.path.placeholders.Nodup
      ∧ (∀ p ∈ f.parametersWith .path, p.type.nullable = false)
      ∧ (boundNames f).Perm f.path.placeholders := by
    rw [← bijection_iff]
    exact ⟨fun h => ⟨h.distinct, h.notNull, h.bijection⟩, fun h => ⟨h.1, h.2.1, h.2.2⟩⟩
  rw [hbound]
  unfold pathFindings
  by_cases hempty : f.path.placeholders.isEmpty = true
  · have hnil : f.path.placeholders = [] := List.isEmpty_iff.mp hempty
    rw [if_pos hempty, errorsIn_error, hasRole_path, hnil, List.perm_nil]
    constructor
    · intro hnone
      have hnames : boundNames f = [] := by simpa using hnone
      refine ⟨List.nodup_nil, fun p hp => ?_, hnames⟩
      have hmap := map_boundName? f
      rw [hnames, List.map_nil, List.map_eq_nil_iff] at hmap
      rw [hmap] at hp
      cases hp
    · rintro ⟨-, -, hnames⟩
      simp [hnames]
  · rw [if_neg hempty, errorsIn_boundPathFindings, forall_boundName?_iff]
    constructor
    · rintro ⟨-, hnodup, hone, hnull, hmem⟩
      exact ⟨hnodup, hnull, (perm_iff_count hnodup).mpr ⟨hone, hmem⟩⟩
    · rintro ⟨hnodup, hnull, hperm⟩
      obtain ⟨hone, hmem⟩ := (perm_iff_count hnodup).mp hperm
      refine ⟨fun hnames => hempty ?_, hnodup, hone, hnull, hmem⟩
      rw [hnames] at hperm
      rw [List.isEmpty_iff]
      exact List.nil_perm.mp hperm

end Context

end ClientGen.Validation
