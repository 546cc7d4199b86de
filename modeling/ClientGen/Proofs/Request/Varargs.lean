/-
  ClientGen/Proofs/Request/Varargs.lean
  =====================================
  **Where the array of a vararg stands for one element.**

  A tag, a placeholder of the path and a builder are written with the bare name of their
  parameter, whatever it is declared as: under another name the request departs from what
  iterates.  Every other vararg is used only as the source of iterations, so the two cases
  are exclusive (`usesIterate_iff`).
-/
import ClientGen.Proofs.Request.Iteration

namespace ClientGen.Request

open ClientGen.Code ClientGen.Path ClientGen.Text ClientGen.Validation

/-! ### Uses -/

/-- Every use of a parameter in its request is the source of an iteration: under another
    name the path is the same, and the statements differ only there. -/
def UsesIterate (f : FunctionModel) (p : ParameterModel) : Prop :=
  ∃ pieces, bindPath f = .ok pieces ∧ ∀ name f', Renames p name f f' →
    bindPath f' = .ok pieces ∧ ∀ names, IteratesAll p.name name
      ((writePopulation f pieces).run names).1.statements
      ((writePopulation f' pieces).run names).1.statements

/-- A parameter that the request uses by its bare name, whatever it is declared as. -/
def IsBare (p : ParameterModel) : Prop :=
  p.hasRole .path = true ∨ p.hasRole .tag = true ∨ p.builder.isSome = true

instance (p : ParameterModel) : Decidable (IsBare p) :=
  inferInstanceAs (Decidable (_ ∨ _ ∨ _))

/-- Statements that differ elsewhere than in the sources of iterations. -/
def Departs (old new : String) (ss ss' : List Statement) : Prop :=
  ∃ (i : Nat) (s s' : Statement), ss[i]? = some s ∧ ss'[i]? = some s' ∧ ¬ Iterates old new s s'

section Departures

variable {old new : String} {ss ss' ts ts' : List Statement}

theorem IteratesAll.length_eq (h : IteratesAll old new ss ss') : ss.length = ss'.length := by
  induction ss generalizing ss' with
  | nil =>
    cases h
    rfl
  | cons s ss ih =>
    cases h with
    | cons first rest => rw [List.length_cons, List.length_cons, ih rest]

theorem IteratesAll.not_departs (h : IteratesAll old new ss ss') : ¬ Departs old new ss ss' := by
  rintro ⟨i, s, s', hs, hs', hnot⟩
  induction ss generalizing ss' i with
  | nil => cases hs
  | cons t ts ih =>
    cases h with
    | cons first rest =>
      cases i with
      | zero =>
        cases hs
        cases hs'
        exact hnot first
      | succ i => exact ih rest i hs hs'

theorem Departs.append_right (h : Departs old new ss ss') :
    Departs old new (ss ++ ts) (ss' ++ ts') := by
  obtain ⟨i, s, s', hs, hs', hnot⟩ := h
  refine ⟨i, s, s', ?_, ?_, hnot⟩
  · rw [List.getElem?_append_left (List.getElem?_eq_some_iff.mp hs).1, hs]
  · rw [List.getElem?_append_left (List.getElem?_eq_some_iff.mp hs').1, hs']

theorem Departs.append_left (hlength : ss.length = ss'.length) (h : Departs old new ts ts') :
    Departs old new (ss ++ ts) (ss' ++ ts') := by
  obtain ⟨i, s, s', hs, hs', hnot⟩ := h
  refine ⟨ss.length + i, s, s', ?_, ?_, hnot⟩
  · rw [List.getElem?_append_right (Nat.le_add_right _ _), Nat.add_sub_cancel_left, hs]
  · rw [hlength, List.getElem?_append_right (Nat.le_add_right _ _), Nat.add_sub_cancel_left, hs']

theorem Departs.ofNot {s s' : Statement} (h : ¬ Iterates old new s s') :
    Departs old new (s :: ss) (s' :: ss') :=
  ⟨0, s, s', rfl, rfl, h⟩

end Departures

/-! ### Bare names -/

section Bare

variable {p : ParameterModel} {name : String} {f f' : FunctionModel}

theorem not_iterates_expression (hne : name ≠ p.name) (left right : String) :
    ¬ Iterates p.name name (.expression (left ++ p.name ++ right))
      (.expression (left ++ name ++ right)) := by
  intro h
  generalize hold : left ++ p.name ++ right = code at h
  generalize hnew : left ++ name ++ right = code' at h
  cases h
  have hcode := (String.append_left_inj right).mp (hnew.trans hold.symm)
  exact hne ((String.append_right_inj left).mp hcode)

theorem not_iterates_guard (hne : name ≠ p.name) (body body' : List Statement) :
    ¬ Iterates p.name name (.block (.plain (p.name ++ "?.let") body))
      (.block (.plain (name ++ "?.let") body')) := by
  intro h
  unfold Block.plain at h
  generalize hold : p.name ++ "?.let" = opening at h
  generalize hnew : name ++ "?.let" = opening' at h
  have hsame : opening' ≠ opening := by
    rintro rfl
    exact hne ((String.append_left_inj "?.let").mp (hnew.trans hold.symm))
  cases h with
  | same => exact hsame rfl
  | source known =>
    have hiteration := (String.append_right_inj p.name).mp hold
    rw [← hiteration] at known
    revert known
    decide
  | inside => exact hsame rfl

/-- A parameter that is used as a whole is used by its bare name. -/
theorem not_iterates_whole (hne : name ≠ p.name) (left right : String) :
    ¬ Iterates p.name name
      (eachValue p.name (wholeShape p) fun v => .expression (left ++ v.code ++ right))
      (eachValue name (wholeShape (withName p name)) fun v =>
        .expression (left ++ v.code ++ right)) := by
  unfold eachValue wholeShape withName
  dsimp only
  cases p.type.nullable with
  | true => exact not_iterates_guard hne _ _
  | false => exact not_iterates_expression hne left right

/-- When only one parameter is selected, it is the renamed one. -/
theorem Renames.filter_only (h : Renames p name f f') {select : ParameterModel → Bool}
    (hp : select p = true) (hname : select (withName p name) = true)
    (honly : (f.parameters.filter select).length ≤ 1) :
    f.parameters.filter select = [p] ∧ f'.parameters.filter select = [withName p name] := by
  obtain ⟨front, back, hsplit, rfl⟩ := h
  rw [hsplit] at honly ⊢
  simp only [List.filter_append, List.filter_cons, hp, hname, if_true, List.length_append,
    List.length_cons] at honly ⊢
  have hfront : front.filter select = [] := List.length_eq_zero_iff.mp (by omega)
  have hback : back.filter select = [] := List.length_eq_zero_iff.mp (by omega)
  rw [hfront, hback]
  exact ⟨rfl, rfl⟩

/-! ### Tags -/

theorem writeTag_bare (hne : name ≠ p.name) (key : String) :
    Matches (fun s s' => ¬ Iterates p.name name s s') (writeTag p key)
      (writeTag (withName p name) key) := by
  unfold writeTag
  refine (Matches.of_eq rfl).bind fun written _ hwritten => ?_
  refine (Matches.of_eq rfl).bind fun type _ htype => ?_
  rw [← hwritten, ← htype]
  exact .pure (not_iterates_whole hne _ ")")

theorem tagName?_of_hasRole (htag : p.hasRole .tag = true) : ∃ key, tagName? p = some key := by
  rw [← p.isSome_role?, Option.isSome_iff_exists] at htag
  obtain ⟨r, hr⟩ := htag
  have hkind := ParameterModel.kind_of_role? hr
  unfold tagName?
  rw [hr]
  cases r with
  | tag key => exact ⟨key, rfl⟩
  | _ => cases hkind

theorem writeTags_bare (h : Renames p name f f') (hne : name ≠ p.name)
    (htag : p.hasRole .tag = true) :
    Matches (Departs p.name name) (writeTags f) (writeTags f') := by
  obtain ⟨front, back, hsplit, rfl⟩ := h
  obtain ⟨key, hkey⟩ := tagName?_of_hasRole htag
  have hkey' : tagName? (withName p name) = some key := hkey
  unfold writeTags tagged
  rw [hsplit]
  simp only [List.filterMap_append, List.filterMap_cons, hkey, hkey', Option.map_some,
    List.mapM_append, List.mapM_cons]
  refine (Matches.of_eq rfl).bind fun first _ hfirst => ?_
  rw [← hfirst]
  refine Matches.bind (R := Departs p.name name) ?_ fun rest rest' hrest => ?_
  · refine (writeTag_bare hne key).bind fun s s' hs => ?_
    refine (Matches.of_eq rfl).bind fun others _ _ => ?_
    exact .pure (.ofNot hs)
  · exact .pure (hrest.append_left rfl)

/-! ### Builders -/

theorem writeTakenRequest_bare (hne : name ≠ p.name) :
    Matches (fun s s' => ¬ Iterates p.name name s s') (writeTakenRequest p)
      (writeTakenRequest (withName p name)) := by
  have hwhole := not_iterates_whole hne "this.takeFrom(" ")"
  unfold writeTakenRequest
  change Matches _ (if !p.type.is TypeName.httpRequestBuilder then _ else _)
    (if !p.type.is TypeName.httpRequestBuilder then _ else _)
  split
  · exact (Matches.of_eq rfl).bind fun _ _ _ => .pure hwhole
  · exact .pure hwhole

theorem runOnRequest_bare (hne : name ≠ p.name) :
    ¬ Iterates p.name name (runOnRequest p) (runOnRequest (withName p name)) := by
  unfold runOnRequest
  have h := not_iterates_expression hne "" (if p.type.nullable then "?.invoke(this)" else "(this)")
  rw [String.empty_append, String.empty_append] at h
  exact h

theorem writeBuilders_bare (h : Renames p name f f') (hne : name ≠ p.name)
    (honly : f.builderParameters.length ≤ 1) (hbuilder : p.builder.isSome = true) :
    Matches (Departs p.name name) (writeBuilders f) (writeBuilders f') := by
  obtain ⟨hf, hf'⟩ := h.filter_only hbuilder hbuilder honly
  obtain ⟨kind, hkind⟩ := Option.isSome_iff_exists.mp hbuilder
  have hbuilders : ∀ k, buildersOf f k = [p].filter (fun q => q.builder == some k)
      ∧ buildersOf f' k = [withName p name].filter fun q => q.builder == some k := by
    intro k
    rw [buildersOf_eq, buildersOf_eq, FunctionModel.builderParameters,
      FunctionModel.builderParameters, hf, hf']
    exact ⟨rfl, rfl⟩
  have hkind' : (withName p name).builder = some kind := hkind
  unfold writeBuilders
  simp only [(hbuilders _).1, (hbuilders _).2, List.filter_cons, List.filter_nil, hkind, hkind']
  cases kind with
  | takeFrom =>
    refine Matches.bind (R := Departs p.name name) ?_ fun taken taken' htaken => .pure ?_
    · change Matches _ ([p].mapM writeTakenRequest) ([withName p name].mapM writeTakenRequest)
      rw [List.mapM_cons, List.mapM_cons]
      refine (writeTakenRequest_bare hne).bind fun s s' hs => ?_
      exact .pure (.ofNot hs)
    · exact htaken.append_right
  | lambda => exact .pure (.ofNot (runOnRequest_bare hne))

/-! ### Placeholders -/

theorem bindParts_cons {part : Part} {parts : List Part} {pieces : List PathPiece}
    (h : bindParts f (part :: parts) = .ok pieces) : ∃ piece rest, bindPart f part = .ok piece
      ∧ bindParts f parts = .ok rest ∧ pieces = piece :: rest := by
  unfold bindParts at h
  cases hpart : bindPart f part with
  | error e =>
    rw [hpart] at h
    cases h
  | ok piece =>
    rw [hpart] at h
    cases hrest : bindParts f parts with
    | error e =>
      rw [hrest] at h
      cases h
    | ok rest =>
      rw [hrest] at h
      cases h
      exact ⟨piece, rest, rfl, rfl, rfl⟩

theorem bindPart_eq_of_bindParts {parts : List Part} {pieces : List PathPiece}
    (h : bindParts f parts = .ok pieces) (h' : bindParts f' parts = .ok pieces) :
    ∀ part ∈ parts, bindPart f part = bindPart f' part := by
  induction parts generalizing pieces with
  | nil =>
    intro part hpart
    cases hpart
  | cons part parts ih =>
    obtain ⟨piece, rest, hpart, hrest, rfl⟩ := bindParts_cons h
    obtain ⟨piece', rest', hpart', hrest', heq⟩ := bindParts_cons h'
    cases heq
    rw [List.forall_mem_cons]
    exact ⟨hpart.trans hpart'.symm, ih hrest hrest'⟩

theorem bindPath_bare {pieces : List PathPiece} (h : Renames p name f f') (hne : name ≠ p.name)
    (hp : p ∈ f.parameters) (hbound : PathBound f) (hpath : p.hasRole .path = true)
    (hpieces : bindPath f = .ok pieces) : bindPath f' ≠ .ok pieces := by
  have hsome : (boundName? p).isSome = true := (isSome_boundName? p).trans hpath
  obtain ⟨placeholder, hname⟩ := Option.isSome_iff_exists.mp hsome
  obtain ⟨encoded, hrole⟩ := boundName?_eq_some.mp hname
  have hperm := (bijection_iff f).mp hbound.bijection
  have hmem : placeholder ∈ f.path.placeholders :=
    hperm.subset (List.mem_filterMap.mpr ⟨p, hp, hname⟩)
  have honly : (f.parameters.filter fun q => boundName? q == some placeholder).length ≤ 1 := by
    have hone := ((perm_iff_count hbound.distinct).mp hperm).1 placeholder hmem
    exact Nat.le_of_eq ((bindingCount_eq_count f placeholder).trans hone)
  have hselect : (boundName? p == some placeholder) = true := beq_iff_eq.mpr hname
  obtain ⟨hf, hf'⟩ := h.filter_only hselect hselect honly
  have hbinding := binding?_eq_some hf hrole
  have hbinding' := binding?_eq_some (p := withName p name) hf' hrole
  have hsame : f'.path = f.path := by
    obtain ⟨front, back, -, rfl⟩ := h
    rfl
  obtain ⟨part, hpart, hplaceholder⟩ := List.mem_filterMap.mp hmem
  intro hpieces'
  unfold bindPath at hpieces hpieces'
  rw [hsame] at hpieces'
  have heq := bindPart_eq_of_bindParts hpieces hpieces' part hpart
  cases part with
  | literal text => cases hplaceholder
  | placeholder n =>
    cases hplaceholder
    simp only [bindPart, hbinding, hbinding', Except.ok.injEq, PathPiece.parameter.injEq] at heq
    exact hne heq.1.symm

end Bare

/-! ### Varargs -/

section Varargs

variable {m m' : InterfaceModel} {o : Options} {log log' : Log} {f : FunctionModel}
  {p : ParameterModel}

theorem exists_renames (hp : p ∈ f.parameters) :
    ∃ name f', name ≠ p.name ∧ Renames p name f f' := by
  obtain ⟨front, back, hsplit⟩ := List.append_of_mem hp
  refine ⟨p.name ++ "_", _, fun h => ?_, front, back, hsplit, rfl⟩
  have hlength := congrArg String.length h
  rw [String.length_append] at hlength
  exact Nat.succ_ne_self _ hlength

theorem usesIterate_of_not_bare (haccepted : Accepted Check.all m o)
    (hf : f ∈ m.generatedFunctions) (hp : p ∈ f.parameters) (hvararg : p.isVararg = true)
    (hbare : ¬ IsBare p) : UsesIterate f p := by
  unfold IsBare at hbare
  simp only [not_or, Bool.not_eq_true, Option.isSome_eq_false_iff,
    Option.isNone_iff_eq_none] at hbare
  obtain ⟨hpath, htag, hbuilder⟩ := hbare
  obtain ⟨hbody, hurl⟩ := haccepted.vararg hf hp hvararg
  obtain ⟨pieces, hpieces, -⟩ := bindPath_eq_ok (haccepted.function hf).path
  refine ⟨pieces, hpieces, fun name f' h => ⟨?_, fun names => ?_⟩⟩
  · rw [bindPath_renames h hpath]
    exact hpieces
  · -- Tags come last and do not name the parameter at all.
    have htags : Matches (IteratesAll p.name name) (writeTags f) (writeTags f') := by
      rw [writeTags_renames h htag]
      exact .refl (.refl _ _) _
    obtain ⟨⟨hbefore, hlast⟩, -⟩ :=
      writePopulation_renames h hvararg hurl hbody hbuilder htags pieces names
    exact hbefore.append hlast

theorem not_usesIterate_of_bare (haccepted : Accepted Check.all m o)
    (hf : f ∈ m.generatedFunctions) (hp : p ∈ f.parameters) (hvararg : p.isVararg = true)
    (hbare : IsBare p) : ¬ UsesIterate f p := by
  rintro ⟨pieces, hpieces, huses⟩
  obtain ⟨name, f', hne, h⟩ := exists_renames hp
  obtain ⟨hpieces', hstatements⟩ := huses name f' h
  have hchecked := haccepted.function hf
  -- Builders come first and tags last, so there the statements face each other; a path is
  -- already bound otherwise.
  cases hbuilder : p.builder with
  | some kind =>
    have hsome : p.builder.isSome = true := by rw [hbuilder, Option.isSome_some]
    have hdeparts := (writeBuilders_bare h hne hchecked.builders hsome (.empty "")).1
    refine (hstatements (.empty "")).not_departs ?_
    simp only [Population.statements, List.append_assoc]
    exact hdeparts.append_right
  | none =>
    rcases hbare with hpath | htag | hsome
    · exact bindPath_bare h hne hp hchecked.path hpath hpieces hpieces'
    · obtain ⟨hbody, hurl⟩ := haccepted.vararg hf hp hvararg
      obtain ⟨⟨hbefore, hdeparts⟩, -⟩ := writePopulation_renames h hvararg hurl hbody hbuilder
        (writeTags_bare h hne htag) pieces (.empty "")
      exact (hstatements (.empty "")).not_departs (hdeparts.append_left hbefore.length_eq)
    · rw [hbuilder] at hsome
      cases hsome

/-- In every generated function of an accepted model, each use of a vararg is the source of
    an iteration over its elements, unless the vararg fills a placeholder of the path, is a
    tag or is a builder; these are used by their bare names. -/
theorem usesIterate_iff (hvalidate : (validate Check.all m o).run.run log = (.ok (some m'), log'))
    (hf : f ∈ m'.generatedFunctions) (hp : p ∈ f.parameters) (hvararg : p.isVararg = true) :
    UsesIterate f p ↔ ¬ IsBare p := by
  obtain ⟨rfl, haccepted⟩ := accepted_of_validate hvalidate
  constructor
  · intro huses hbare
    exact not_usesIterate_of_bare haccepted hf hp hvararg hbare huses
  · exact usesIterate_of_not_bare haccepted hf hp hvararg

/-- The words of a search are iterated. -/
theorem usesIterate_of_search : ∃ f ∈ InterfaceModel.ofSearch.generatedFunctions,
    ∃ p ∈ f.parameters, p.isVararg = true ∧ UsesIterate f p := by
  have haccepted : Accepted Check.all InterfaceModel.ofSearch .default :=
    errorsOf_eq_zero.mp (by decide +kernel)
  obtain ⟨log', hvalidate⟩ := validate_of_accepted rfl haccepted (.opened "")
  obtain ⟨f, hf, p, hp, hvararg, hbare⟩ : ∃ f ∈ InterfaceModel.ofSearch.generatedFunctions,
    ∃ p ∈ f.parameters, p.isVararg = true ∧ ¬ IsBare p := by decide +kernel
  exact ⟨f, hf, p, hp, hvararg, (usesIterate_iff hvalidate hf hp hvararg).mpr hbare⟩

def InterfaceModel.ofTraces : InterfaceModel :=
  .holding "Users" [.getting "users" [⟨"trace", .named "kotlin.String", true, [⟨"Tag", []⟩]⟩]
    (.named "kotlin.String")]

/-- Not every vararg is iterated, those that are literal cookies left out: the array is put
    under a key for one element. -/
theorem vararg_not_always_iterated : ¬ ∀ (m m' : InterfaceModel) (o : Options) (log log' : Log),
    (validate Check.all m o).run.run log = (.ok (some m'), log') →
      ∀ f ∈ m'.generatedFunctions, ∀ p ∈ f.parameters, p.isVararg = true →
        (∀ c ∈ p.roles.filterMap cookieOf?, c.value = .fromParameter) → UsesIterate f p := by
  intro hall
  have haccepted : Accepted Check.all InterfaceModel.ofTraces .default :=
    errorsOf_eq_zero.mp (by decide +kernel)
  obtain ⟨log', hvalidate⟩ := validate_of_accepted rfl haccepted (.opened "")
  obtain ⟨f, hf, p, hp, hvararg, hcookies, hbare⟩ :
    ∃ f ∈ InterfaceModel.ofTraces.generatedFunctions, ∃ p ∈ f.parameters, p.isVararg = true
      ∧ (∀ c ∈ p.roles.filterMap cookieOf?, c.value = .fromParameter) ∧ IsBare p := by
    decide +kernel
  have huses := hall _ _ _ _ _ hvalidate f hf p hp hvararg hcookies
  exact not_usesIterate_of_bare haccepted hf hp hvararg hbare huses

end Varargs

end ClientGen.Request
