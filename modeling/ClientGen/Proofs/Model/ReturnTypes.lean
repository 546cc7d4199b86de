/-
  ClientGen/Proofs/Model/ReturnTypes.lean
  =======================================
  **Return types that say nothing about the body.**

  A result or a stream without an argument is the only type without a kind, once stars
  are ruled out.
-/
import ClientGen.Model.ReturnKind

namespace ClientGen

/-- A result, a stream or a stream of results that does not say what it holds. -/
inductive TypeRef.Bare : TypeRef → Prop
  | result {t : TypeRef} (name : t.is TypeName.result = true) (none : t.arguments = []) : Bare t
  | flow {t : TypeRef} (name : t.is TypeName.flow = true) (none : t.arguments = []) : Bare t
  | flowOfResult {t item : TypeRef} (name : t.is TypeName.flow = true)
      (first : t.argument? 0 = some item) (itemName : item.is TypeName.result = true)
      (none : item.arguments = []) : Bare t

namespace TypeRef

variable {t u : TypeRef}

theorem hasVariableOrStar_arguments (h : t.hasVariableOrStar = false) :
    TypeArgument.anyVariableOrStar t.arguments = false := by
  obtain ⟨name, nullable, arguments, resolved, typeParameter, function⟩ := t
  unfold hasVariableOrStar at h
  rw [Bool.or_eq_false_iff, Bool.or_eq_false_iff] at h
  exact h.1.2

theorem argument?_zero_eq_none (h : t.hasVariableOrStar = false) :
    t.argument? 0 = none ↔ t.arguments = [] := by
  have hargs := hasVariableOrStar_arguments h
  unfold argument?
  cases hcases : t.arguments with
  | nil => simp
  | cons a as =>
    rw [hcases] at hargs
    cases a with
    | star => rw [TypeArgument.anyVariableOrStar] at hargs; cases hargs
    | type u => simp

theorem hasVariableOrStar_argument? (h : t.hasVariableOrStar = false)
    (hfirst : t.argument? 0 = some u) : u.hasVariableOrStar = false := by
  have hargs := hasVariableOrStar_arguments h
  unfold argument? at hfirst
  cases hcases : t.arguments with
  | nil => rw [hcases] at hfirst; simp at hfirst
  | cons a as =>
    rw [hcases] at hargs hfirst
    cases a with
    | star => simp at hfirst
    | type v =>
      simp only [List.getElem?_cons_zero, Option.some.injEq] at hfirst
      rw [TypeArgument.anyVariableOrStar, Bool.or_eq_false_iff] at hargs
      rw [← hfirst]
      exact hargs.1

end TypeRef

namespace ReturnKind

variable {t : TypeRef}

theorem leaf_ne_unsupported (t : TypeRef) : leaf t ≠ .unsupported := by
  unfold leaf
  by_cases hunit : t.is TypeName.unit = true
  · rw [if_pos hunit]
    exact fun h => nomatch h
  · rw [if_neg hunit]
    exact fun h => nomatch h

theorem ofResult_eq_unsupported {inner : Option TypeRef} :
    ofResult inner = .unsupported ↔ inner = none := by
  cases inner with
  | none => simp [ofResult]
  | some t =>
    simp only [ofResult]
    split
    · simp
    · split <;> simp

/-- A stream is looked into twice: for its items, and for what the results hold that it streams. -/
theorem ofFlow_eq_unsupported {item : Option TypeRef} :
    ofFlow item = .unsupported
      ↔ item = none ∨ ∃ t, item = some t ∧ t.is TypeName.result = true ∧ t.argument? 0 = none := by
  cases item with
  | none => simp [ofFlow]
  | some t =>
    simp only [ofFlow]
    by_cases hresult : t.is TypeName.result = true
    · rw [if_pos hresult]
      cases hinner : t.argument? 0 with
      | none => simp [hresult, hinner]
      | some u => simp [hinner]
    · rw [if_neg hresult]
      simp [hresult]

/-- A type is without a kind exactly when it does not say what it holds. -/
theorem classify_eq_unsupported (h : t.hasVariableOrStar = false) :
    classify t = .unsupported ↔ t.Bare := by
  have hflow_result : t.is TypeName.flow = true → t.is TypeName.result = false := by
    intro hflow
    have hname : t.qualifiedName = TypeName.flow := eq_of_beq hflow
    unfold TypeRef.is
    rw [hname]
    decide
  unfold classify
  by_cases hflow : t.is TypeName.flow = true
  · rw [if_pos hflow, ofFlow_eq_unsupported, TypeRef.argument?_zero_eq_none h]
    constructor
    · rintro (hnone | ⟨item, hfirst, hitem, hinner⟩)
      · exact .flow hflow hnone
      · rw [TypeRef.argument?_zero_eq_none (TypeRef.hasVariableOrStar_argument? h hfirst)]
          at hinner
        exact .flowOfResult hflow hfirst hitem hinner
    · rintro (⟨hname, -⟩ | ⟨-, hnone⟩ | ⟨-, hfirst, hitem, hnone⟩)
      · rw [hflow_result hflow] at hname
        cases hname
      · exact .inl hnone
      · refine .inr ⟨_, hfirst, hitem, ?_⟩
        rw [TypeRef.argument?_zero_eq_none (TypeRef.hasVariableOrStar_argument? h hfirst)]
        exact hnone
  · rw [if_neg hflow]
    by_cases hresult : t.is TypeName.result = true
    · rw [if_pos hresult, ofResult_eq_unsupported, TypeRef.argument?_zero_eq_none h]
      constructor
      · exact fun hnone => .result hresult hnone
      · rintro (⟨-, hnone⟩ | ⟨hname, -⟩ | ⟨hname, -⟩)
        · exact hnone
        · exact (hflow hname).elim
        · exact (hflow hname).elim
    · rw [if_neg hresult]
      have hkind : (if t.is TypeName.httpRequestBuilder then .builder
          else if t.is TypeName.httpStatement then .statement else leaf t)
            ≠ ReturnKind.unsupported := by
        split
        · exact fun h => nomatch h
        · split
          · exact fun h => nomatch h
          · exact leaf_ne_unsupported t
      refine iff_of_false hkind ?_
      rintro (⟨hname, -⟩ | ⟨hname, -⟩ | ⟨hname, -⟩)
      · exact hresult hname
      · exact hflow hname
      · exact hflow hname

end ReturnKind

end ClientGen
