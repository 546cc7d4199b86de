/-
  ClientGen/Proofs/Request/Completeness.lean
  ==========================================
  **Nothing that a parameter asks for is lost.**

  The checks leave no builder, body style or role over that a section would not see, so
  every section holds exactly the emissions of its groups, in declaration order, every
  path role fills one placeholder, and the body is set once when there is one
  (`Complete`).
-/
import ClientGen.Proofs.Request.Sections
import ClientGen.Proofs.Validation.Checked

namespace ClientGen.Request

open ClientGen.Code ClientGen.Path ClientGen.Text ClientGen.Validation

/-! ### Complete requests -/

/-- The use of a path role fills the placeholder of its name. -/
def Fills (use : ParameterModel × Role) (part : Part × PathPiece) : Prop :=
  ∃ name encoded, use.2 = .path name encoded ∧ part.1 = .placeholder name
    ∧ part.2 = .parameter use.1.name encoded

/-- The placeholders of a path with what stands for them. -/
def substitutions (f : FunctionModel) (pieces : List PathPiece) : List (Part × PathPiece) :=
  (f.path.parts.zip pieces).filter fun part => part.1.placeholder?.isSome

/-- Every role of every parameter, and every builder, contributes once to its section. -/
structure Complete (f : FunctionModel) (pieces : List PathPiece) (r : Population) : Prop where
  order : r.statements
    = r.builders ++ r.method ++ r.url ++ r.headers ++ r.cookies ++ r.body ++ r.tags
  /-- Every parameter has a role or is a builder, and none is both. -/
  parameters : ∀ p ∈ f.parameters, (p.builder = none ∧ ∃ role, (p, role) ∈ roleUses f)
    ∨ (p.roles = [] ∧ p ∈ f.builderParameters)
  builders : List.Forall₂ Shapes f.builderParameters r.builders
  method : ∃ methods, r.method = if f.httpMethod.method = .absent then []
    else [.expression ("this.method = " ++ methodValue methods f.httpMethod.method)]
  /-- The uses of path roles take the order of the placeholders. -/
  path : ∃ uses, uses.Perm (usesIn f .path) ∧ List.Forall₂ Fills uses (substitutions f pieces)
    ∧ (uses ≠ [] → pathStatements f pieces
        = [.expression ("this.takeFrom(" ++ pathLiteral pieces ++ ")")])
  url : ∃ urls queries fragments, EmitsAll (usesIn f .urls) urls
    ∧ EmitsAll (usesIn f .queries) queries ∧ EmitsAll (usesIn f .fragments) fragments
    ∧ r.url = blockUnlessEmpty "this.url"
        (urls ++ pathStatements f pieces ++ queries ++ ownFragment f ++ fragments)
  headers : ∃ contentType headers, EmitsAll (usesIn f .headers) headers
    ∧ contentType.length = (if f.isFormUrl && !f.isMultipart then 1 else 0)
    ∧ r.headers = contentType ++ blockUnlessEmpty "this.headers"
        (headers ++ f.rawHeaders.filterMap entryHeader?)
  cookies : ∃ own cookies, own.length = f.cookies.length
    ∧ EmitsAll (usesIn f .cookies) cookies ∧ r.cookies = own ++ cookies
  body : IsBody f r.body
  tags : EmitsAll (usesIn f .tags) r.tags
  /-- The names of builders are left out: they are not the generator's words. -/
  setBody : (bodyCalls (r.method ++ r.url ++ r.headers ++ r.cookies ++ r.body ++ r.tags)).length
    = if f.hasBody then 1 else 0

/-! ### Substitutions -/

theorem usesIn_path {f : FunctionModel}
    (hf : ∀ p ∈ f.parameters, hasTooManyRoles p = false) :
    usesIn f .path = f.parameters.filterMap fun p => (p.role? .path).map fun r => (p, r) :=
  usesIn_eq_filterMap hf rfl fun k => by cases k <;> decide

theorem map_usesIn_path {f : FunctionModel}
    (hf : ∀ p ∈ f.parameters, hasTooManyRoles p = false) :
    (usesIn f .path).map (fun use => boundName? use.1) = (boundNames f).map some := by
  rw [usesIn_path hf, boundNames, List.map_filterMap, List.map_filterMap]
  refine List.filterMap_congr fun p _ => ?_
  unfold boundName?
  rcases role?_path p with hrole | ⟨name, encoded, hrole⟩
  · rw [hrole]
    rfl
  · rw [hrole]
    simp only [Option.map_some, hrole]

/-- The placeholders of a path are filled by uses, one for each. -/
theorem exists_fills {f : FunctionModel} {parts : List Part} {pieces : List PathPiece}
    (h : List.Forall₂ (BoundPart f) parts pieces) : ∃ uses : List (ParameterModel × Role),
      List.Forall₂ Fills uses
          ((parts.zip pieces).filter fun part => part.1.placeholder?.isSome)
        ∧ uses.map (fun use => boundName? use.1) = (parts.filterMap Part.placeholder?).map some
        ∧ ∀ use ∈ uses, use.1 ∈ f.parameters ∧ use.1.role? .path = some use.2 := by
  induction h with
  | nil => exact ⟨[], .nil, rfl, fun _ h => nomatch h⟩
  | cons hpart _ ih =>
    obtain ⟨uses, hfills, hnames, hrole⟩ := ih
    cases hpart with
    | literal text => exact ⟨uses, hfills, hnames, hrole⟩
    | placeholder name p encoded honly hp =>
      have hname : boundName? p = some name := boundName?_eq_some.mpr ⟨encoded, hp⟩
      have hmem : p ∈ f.parameters := by
        have hfilter := List.mem_singleton_self p
        rw [← honly] at hfilter
        exact (List.mem_filter.mp hfilter).1
      refine ⟨(p, .path name encoded) :: uses, ?_, ?_, ?_⟩
      · exact .cons ⟨name, encoded, rfl, rfl, rfl⟩ hfills
      · rw [List.map_cons, hnames, hname]
        rfl
      · exact List.forall_mem_cons.mpr ⟨⟨hmem, hp⟩, hrole⟩

theorem parts_parse_of_isEmpty {raw : String} (h : (Template.parse raw).isEmpty = true) :
    (Template.parse raw).parts = [] := by
  have hraw : raw = "" := String.isEmpty_iff.mp h
  rw [hraw, Template.parse, String.toList_empty, partsFrom]
  rfl

theorem pathStatements_of_parts {f : FunctionModel} {basePath : String}
    (hread : f.IsRead basePath) (hparts : f.path.parts ≠ []) (pieces : List PathPiece) :
    pathStatements f pieces = [.expression ("this.takeFrom(" ++ pathLiteral pieces ++ ")")] := by
  unfold pathStatements
  refine if_neg fun hempty => hparts ?_
  rw [hread.path] at hempty ⊢
  exact parts_parse_of_isEmpty hempty

/-- Every use of a path role fills one placeholder of a bound path. -/
theorem exists_perm_fills {f : FunctionModel} {pieces : List PathPiece} (hbound : PathBound f)
    (hf : ∀ p ∈ f.parameters, hasTooManyRoles p = false)
    (hparts : List.Forall₂ (BoundPart f) f.path.parts pieces) :
    ∃ uses, uses.Perm (usesIn f .path) ∧ List.Forall₂ Fills uses (substitutions f pieces) := by
  obtain ⟨uses, hfills, hnames, hrole⟩ := exists_fills hparts
  refine ⟨uses, ?_, hfills⟩
  -- Names of placeholders do not repeat, so the uses do not either; there are as many of
  -- them as there are path roles, and no room is left for another one.
  have hdistinct : uses.Nodup := by
    apply List.Nodup.of_map (fun use => boundName? use.1)
    rw [hnames]
    exact hbound.distinct.map fun _ _ => Option.some.inj
  have hsubset : uses ⊆ usesIn f .path := by
    rintro ⟨p, r⟩ huse
    obtain ⟨hp, hr⟩ := hrole _ huse
    rw [usesIn_path hf]
    exact List.mem_filterMap.mpr ⟨p, hp, by rw [hr]; rfl⟩
  have hlength : (usesIn f .path).length ≤ uses.length := by
    have huses := congrArg List.length (map_usesIn_path hf)
    have hnames := congrArg List.length hnames
    have hperm := ((bijection_iff f).mp hbound.bijection).length_eq
    simp only [List.length_map] at huses hnames
    rw [huses, hperm, hnames]
    exact Nat.le_refl _
  exact (List.subperm_of_subset hdistinct hsubset).perm_of_length_le hlength

/-! ### Whole requests -/

/-- Every parameter of a checked function has a place in the request. -/
theorem parameter_has_place {f : FunctionModel} {basePath : String} (hread : f.IsRead basePath)
    (hchecked : f.IsChecked) {p : ParameterModel} (hp : p ∈ f.parameters) :
    (p.builder = none ∧ ∃ role, (p, role) ∈ roleUses f)
      ∨ (p.roles = [] ∧ p ∈ f.builderParameters) := by
  by_cases hroles : p.roles = []
  · have hbuilder := (hchecked.contributes p hp).resolve_left (absurd hroles)
    exact .inr ⟨hroles, List.mem_filter.mpr ⟨hp, hbuilder⟩⟩
  · obtain ⟨role, hrole⟩ := List.exists_mem_of_ne_nil _ hroles
    refine .inl ⟨hread.builder p hp hroles, role, ?_⟩
    exact List.mem_flatMap.mpr ⟨p, hp, List.mem_map.mpr ⟨role, hrole, rfl⟩⟩

/-- A checked function whose path is bound is written completely. -/
theorem writePopulation_writes {f : FunctionModel} {basePath : String} {pieces : List PathPiece}
    (hread : f.IsRead basePath) (hchecked : f.IsChecked)
    (hparts : List.Forall₂ (BoundPart f) f.path.parts pieces) :
    Writes (writePopulation f pieces) (Complete f pieces) := by
  unfold writePopulation
  refine (writeBuilders_writes hchecked.builders).bind fun builders hbuilders => ?_
  refine (writeMethod_writes f.httpMethod.method).bind fun method hmethod => ?_
  refine (writeUrl_writes pieces hchecked.roles).bind fun url hurl => ?_
  refine (writeHeaders_writes f).bind fun headers hheaders => ?_
  refine (writeCookies_writes f).bind fun cookies hcookies => ?_
  refine (writeBody_writes hchecked.roles hchecked.styles hchecked.bodies).bind
    fun body hbody => ?_
  refine (writeTags_writes hchecked.roles).bind fun tags htags => ?_
  apply Writes.pure
  obtain ⟨uses, huses, hfills⟩ := exists_perm_fills hchecked.path hchecked.roles hparts
  have htaken : uses ≠ [] → f.path.parts ≠ [] := by
    intro hne hnil
    unfold substitutions at hfills
    rw [hnil] at hfills
    cases hfills
    exact hne rfl
  have hquiet : Quiet (method ++ url ++ headers ++ cookies) :=
    ((hmethod.2.append hurl.2).append hheaders.2).append hcookies.2
  exact {
    order := rfl
    parameters := fun p hp => parameter_has_place hread hchecked hp
    builders := hbuilders
    method := hmethod.1
    path := ⟨uses, huses, hfills, fun hne => pathStatements_of_parts hread (htaken hne) pieces⟩
    url := hurl.1
    headers := hheaders.1
    cookies := hcookies.1
    body := hbody.1
    tags := htags
    setBody := by
      rw [bodyCalls_append, bodyCalls_append, hquiet, htags.quiet (by decide), List.nil_append,
        List.append_nil]
      exact hbody.2 }

/-- Every function of an accepted model is written, and completely. -/
theorem request_complete {m m' : InterfaceModel} {o : Options} {log log' : Log}
    (hm : m.IsExtracted) (hvalidate : (validate Check.all m o).run.run log = (.ok (some m'), log'))
    {f : FunctionModel} (hf : f ∈ m'.generatedFunctions) :
    ∃ pieces, bindPath f = .ok pieces
      ∧ ∀ names, Complete f pieces ((writePopulation f pieces).run names).1 := by
  obtain ⟨rfl, haccepted⟩ := accepted_of_validate hvalidate
  have hchecked := haccepted.function hf
  obtain ⟨pieces, hbind, hparts⟩ := bindPath_eq_ok hchecked.path
  refine ⟨pieces, hbind, ?_⟩
  exact writePopulation_writes (hm.isRead (List.mem_filter.mp hf).1) hchecked hparts

def InterfaceModel.ofSearch : InterfaceModel :=
  .holding "Search" [.getting "find/\x7bkind\x7d"
    [⟨"first", .named "kotlin.Int", false, [⟨"Query", [("value", .string "from")]⟩]⟩,
      ⟨"kind", .named "kotlin.String", false, [⟨"Path", []⟩]⟩,
      ⟨"words", .named "kotlin.String", true, [⟨"Query", []⟩]⟩,
      ⟨"who", .named "kotlin.String", false, [⟨"HeaderParam", [("name", .string "X-Who")]⟩]⟩,
      ⟨"filter", .named "kotlin.String", false, [⟨"Body", []⟩]⟩,
      ⟨"trace", .named "kotlin.String", false, [⟨"Tag", []⟩]⟩,
      ⟨"base", .named TypeName.httpRequestBuilder, false, []⟩]
    (.named "kotlin.String")]

theorem request_complete_of_search : ∃ f ∈ InterfaceModel.ofSearch.generatedFunctions,
    ∃ pieces, bindPath f = .ok pieces
      ∧ ∀ names, Complete f pieces ((writePopulation f pieces).run names).1 := by
  have hm : InterfaceModel.ofSearch.IsExtracted :=
    InterfaceModel.holding_isExtracted (by decide +kernel)
  have haccepted : Accepted Check.all InterfaceModel.ofSearch .default :=
    errorsOf_eq_zero.mp (by decide +kernel)
  obtain ⟨log', hvalidate⟩ := validate_of_accepted rfl haccepted (.opened "")
  obtain ⟨f, hf⟩ := List.exists_mem_of_ne_nil InterfaceModel.ofSearch.generatedFunctions
    (List.isEmpty_eq_false_iff.mp (by decide +kernel))
  exact ⟨f, hf, request_complete hm hvalidate hf⟩

end ClientGen.Request
