/-
  ClientGen/Proofs/Client/FactoryParameters.lean
  ==============================================
  **The parameter names of factories.**

  A factory drops the underscores in front of a constructor parameter's name.  Every name
  is looked at by itself, beside the names and the short names of all others: a short name
  that meets none of them is taken (`ShownAs`).  So no two parameters meet, whether both,
  one or none of them are shortened (`factoryParamNames_apart`).
-/
import ClientGen.Client.Factory
import Mathlib.Data.List.Nodup
import Mathlib.Data.List.TakeWhile

namespace ClientGen.Client

/-! ### Short names -/

/-- The short name is what stands behind all underscores in front. -/
structure IsShortOf (short name : String) : Prop where
  behind : ∃ n, name.toList = List.replicate n '_' ++ short.toList
  bare : short.toList.head? ≠ some '_'

/-- The short name can stand for the name at this place: it is not empty, and at no other
    place stands a name that it is or that it is the short name of. -/
structure Shortens (names : List String) (i : Nat) (short : String) : Prop where
  nonempty : short ≠ ""
  fresh : ∀ j, j ≠ i → ∀ other, names[j]? = some other → other ≠ short ∧ ¬ IsShortOf short other

/-- A name at its place is shown short exactly when its short name can stand for it. -/
inductive ShownAs (names : List String) (i : Nat) (name : String) : String → Prop
  | short {short : String} (isShort : IsShortOf short name)
      (shortens : Shortens names i short) : ShownAs names i name short
  | whole {short : String} (isShort : IsShortOf short name)
      (keeps : ¬ Shortens names i short) : ShownAs names i name name

section Names

variable {name short other : String} {names : List String} {i j : Nat}

theorem dropWhile_underscores {n : Nat} {cs : List Char} (h : cs.head? ≠ some '_') :
    (List.replicate n '_' ++ cs).dropWhile (· == '_') = cs := by
  rw [List.dropWhile_append_of_pos (by simp)]
  cases cs with
  | nil => rfl
  | cons c cs => exact List.dropWhile_cons_of_neg (by simpa using h)

theorem isShortOf_iff : IsShortOf short name ↔ shortName name = short := by
  rw [shortName, ← String.toList_inj, String.toList_ofList]
  constructor
  · rintro ⟨⟨n, hname⟩, hbare⟩
    rw [hname, dropWhile_underscores hbare]
  · intro hshort
    refine ⟨⟨(name.toList.takeWhile (· == '_')).length, ?_⟩, ?_⟩
    · rw [← hshort, ← List.eq_replicate_of_mem, List.takeWhile_append_dropWhile]
      intro c hc
      exact eq_of_beq (List.mem_takeWhile_imp (p := (· == '_')) hc)
    · rw [← hshort]
      intro hhead
      have hnot := List.head?_dropWhile_not (· == '_') name.toList
      rw [hhead] at hnot
      simp at hnot

theorem getElem?_withOthersFrom {α : Type} (before xs : List α) (i : Nat) :
    (withOthersFrom before xs)[i]? = xs[i]?.map fun x => (x, before ++ xs.eraseIdx i) := by
  induction xs generalizing before i with
  | nil => rfl
  | cons x xs ih =>
    cases i with
    | zero => rfl
    | succ i => simp [withOthersFrom, ih]

theorem length_withOthersFrom {α : Type} (before xs : List α) :
    (withOthersFrom before xs).length = xs.length := by
  induction xs generalizing before with
  | nil => rfl
  | cons x xs ih => rw [withOthersFrom, List.length_cons, List.length_cons, ih]

@[simp] theorem length_factoryParamNames (names : List String) :
    (factoryParamNames names).length = names.length := by
  rw [factoryParamNames, List.length_map, length_withOthersFrom]

/-- The test of a short name among the others is the test at all other places. -/
theorem shortens_iff : Shortens names i short ↔
    (short.isEmpty || (names.eraseIdx i).any fun o => o == short || shortName o == short)
      = false := by
  rw [Bool.or_eq_false_iff, List.any_eq_false]
  constructor
  · rintro ⟨hnonempty, hfresh⟩
    refine ⟨by simpa using hnonempty, fun other hmem => ?_⟩
    obtain ⟨j, hj, hother⟩ := List.mem_eraseIdx_iff_getElem?.mp hmem
    obtain ⟨hname, hshort⟩ := hfresh j hj other hother
    rw [isShortOf_iff] at hshort
    simp [hname, hshort]
  · rintro ⟨hnonempty, hfresh⟩
    refine ⟨by simpa using hnonempty, fun j hj other hother => ?_⟩
    have hnot := hfresh other (List.mem_eraseIdx_iff_getElem?.mpr ⟨j, hj, hother⟩)
    rw [isShortOf_iff]
    simpa using hnot

theorem shownAs_factoryParamNames (h : names[i]? = some name) :
    ∃ shown, (factoryParamNames names)[i]? = some shown ∧ ShownAs names i name shown := by
  have hshort : IsShortOf (shortName name) name := isShortOf_iff.mpr rfl
  refine ⟨factoryParamName name (names.eraseIdx i), ?_, ?_⟩
  · rw [factoryParamNames, List.getElem?_map, getElem?_withOthersFrom, h]
    rfl
  · unfold factoryParamName
    by_cases hshortens : Shortens names i (shortName name)
    · rw [if_neg (by rw [shortens_iff.mp hshortens]; exact Bool.false_ne_true)]
      exact .short hshort hshortens
    · rw [if_pos (by rwa [shortens_iff, Bool.not_eq_false] at hshortens)]
      exact .whole hshort hshortens

theorem ShownAs.nonempty {shown : String} (h : ShownAs names i name shown) (hname : name ≠ "") :
    shown ≠ "" := by
  cases h with
  | short _ shortens => exact shortens.nonempty
  | whole _ _ => exact hname

/-- Names at two places are shown differently, whichever of them are shown short. -/
theorem ShownAs.ne {shown shown' : String} (hij : i ≠ j) (hi : names[i]? = some name)
    (hj : names[j]? = some other) (hne : name ≠ other) (h : ShownAs names i name shown)
    (h' : ShownAs names j other shown') : shown ≠ shown' := by
  cases h with
  | short isShort shortens =>
    obtain ⟨hother, hnot⟩ := shortens.fresh j hij.symm other hj
    cases h' with
    | short isShort' _ =>
      -- a short name that two places share is fresh at neither
      rintro rfl
      exact hnot isShort'
    | whole _ _ => exact hother.symm
  | whole _ _ =>
    cases h' with
    | short _ shortens' => exact (shortens'.fresh i hij name hi).1
    | whole _ _ => exact hne

theorem nodup_factoryParamNames (h : names.Nodup) : (factoryParamNames names).Nodup := by
  rw [List.nodup_iff_getElem?_ne_getElem?]
  intro i j hij hj
  rw [length_factoryParamNames] at hj
  have hi : i < names.length := Nat.lt_trans hij hj
  obtain ⟨shown, hshown, hfirst⟩ := shownAs_factoryParamNames (List.getElem?_eq_getElem hi)
  obtain ⟨shown', hshown', hsecond⟩ := shownAs_factoryParamNames (List.getElem?_eq_getElem hj)
  rw [hshown, hshown']
  intro hsame
  refine hfirst.ne (Nat.ne_of_lt hij) (List.getElem?_eq_getElem hi)
    (List.getElem?_eq_getElem hj) ?_ hsecond (Option.some.inj hsame)
  exact fun heq => Nat.ne_of_lt hij (h.getElem_inj_iff.mp heq)

end Names

/-- Of constructor parameters with distinct names that are not empty, a factory has as many,
    with distinct names that are not empty: each is the name or its short name, and it is the
    short name exactly when that one is not empty and no other parameter has it as its name
    or short name. -/
theorem factoryParamNames_apart (params : List ConstructorParam)
    (hnodup : (params.map ConstructorParam.name).Nodup)
    (hnonempty : ∀ p ∈ params, p.name ≠ "") :
    let names := params.map ConstructorParam.name
    (factoryParamNames names).length = params.length
      ∧ (factoryParamNames names).Nodup
      ∧ (∀ name ∈ factoryParamNames names, name ≠ "")
      ∧ ∀ i p, params[i]? = some p → ∃ shown, (factoryParamNames names)[i]? = some shown
          ∧ ShownAs names i p.name shown := by
  intro names
  have hshown : ∀ i p, params[i]? = some p → ∃ shown,
      (factoryParamNames names)[i]? = some shown ∧ ShownAs names i p.name shown := by
    intro i p hp
    exact shownAs_factoryParamNames (by rw [List.getElem?_map, hp]; rfl)
  refine ⟨?_, nodup_factoryParamNames hnodup, ?_, hshown⟩
  · rw [length_factoryParamNames, List.length_map]
  · intro name hname
    obtain ⟨i, hi⟩ := List.getElem?_of_mem hname
    have hlt : i < params.length := by
      have hlength := (List.getElem?_eq_some_iff.mp hi).1
      rwa [length_factoryParamNames, List.length_map] at hlength
    obtain ⟨shown, hsame, hp⟩ := hshown i params[i] (List.getElem?_eq_getElem hlt)
    rw [hi, Option.some.injEq] at hsame
    rw [hsame]
    exact hp.nonempty (hnonempty _ (List.getElem_mem hlt))

def ConstructorParam.someParams : List ConstructorParam :=
  ["_httpClient", "token", "__token", "_", "id"].map fun name =>
    ⟨name, .named "kotlin.String", none⟩

theorem factoryParamNames_apart_of_some :
    (ConstructorParam.someParams.map ConstructorParam.name).Nodup
      ∧ (∀ p ∈ ConstructorParam.someParams, p.name ≠ "")
      ∧ factoryParamNames (ConstructorParam.someParams.map ConstructorParam.name)
        = ["httpClient", "token", "__token", "_", "id"]
      ∧ (factoryParamNames (ConstructorParam.someParams.map ConstructorParam.name)).Nodup := by
  have hnodup : (ConstructorParam.someParams.map ConstructorParam.name).Nodup := by decide
  have hnonempty : ∀ p ∈ ConstructorParam.someParams, p.name ≠ "" := by decide
  exact ⟨hnodup, hnonempty, by decide +kernel,
    (factoryParamNames_apart ConstructorParam.someParams hnodup hnonempty).2.1⟩

end ClientGen.Client
