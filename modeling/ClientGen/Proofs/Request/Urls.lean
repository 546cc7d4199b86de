/-
  ClientGen/Proofs/Request/Urls.lean
  ==================================
  **Who gives the URL of a request.**

  Beside a parameter that gives the URL, the checks leave room for a blank path only
  (`isBlank_of_samplePath`), while reading drops the base path for an empty one only.  So
  the parameter is the last to take over the URL exactly when the path is empty; a path of
  blanks follows it, with the base path in front (`url_owned`).
-/
import ClientGen.Proofs.Request.Calm
import ClientGen.Proofs.Request.Completeness

namespace ClientGen.Request

open ClientGen.Code ClientGen.Path ClientGen.Text ClientGen.Validation

/-! ### Blank paths -/

theorem isBlank_append (s t : String) : isBlank (s ++ t) = (isBlank s && isBlank t) := by
  unfold isBlank
  rw [String.toList_append, List.all_append]

theorem isBlank_join_literalRun (run : List Char) :
    isBlank (String.join ((literalRun run).map (Part.substitute "valid")))
      = run.all isBlankChar := by
  unfold literalRun
  cases run with
  | nil => rfl
  | cons c run => simp [Part.substitute, isBlank]

/-- What stands for a placeholder is not blank, so a blank path is text alone. -/
theorem all_blank_of_partsFrom (run cs : List Char)
    (h : isBlank (String.join ((partsFrom run cs).map (Part.substitute "valid"))) = true) :
    (run ++ cs).all isBlankChar = true := by
  induction run, cs using partsFrom.induct with
  | case1 run =>
    rwa [partsFrom, isBlank_join_literalRun, ← List.append_nil run] at h
  | case2 run cs name rest hname _ ih =>
    -- the sample of the placeholder would be blank
    rw [partsFrom_of_placeholderName run hname, List.map_append, List.map_cons,
      String.join_append, String.join_cons, isBlank_append, isBlank_append, Bool.and_eq_true,
      Bool.and_eq_true] at h
    have hvalid : isBlank "valid" = false := by decide
    rw [Part.substitute, hvalid] at h
    exact absurd h.2.1 (by decide)
  | case3 run cs hname ih =>
    rw [partsFrom_of_no_placeholderName run hname] at h
    rw [← List.singleton_append, ← List.append_assoc]
    exact ih h
  | case4 run c cs hc ih =>
    rw [partsFrom, if_neg hc] at h
    rw [← List.singleton_append, ← List.append_assoc]
    exact ih h

theorem isBlank_of_samplePath {path : String} (h : isBlank (samplePath path) = true) :
    isBlank path = true :=
  all_blank_of_partsFrom [] path.toList h

theorem startsWith_of_isBlank {path front : String} {c : Char} {cs : List Char}
    (h : isBlank path = true) (hfront : front.toList = c :: cs) (hc : isBlankChar c = false) :
    startsWith path front = false := by
  rw [startsWith, hfront]
  cases hpath : path.toList with
  | nil => rfl
  | cons d ds =>
    rw [isBlank, hpath, List.all_cons, Bool.and_eq_true] at h
    have hne : c ≠ d := by
      rintro rfl
      rw [hc] at h
      exact absurd h.1 (by decide)
    rw [dropFront_cons_of_ne hne, Option.isSome_none]

/-- A path of blanks is not absolute. -/
theorem effectivePath_of_isBlank {path : String} (h : isBlank path = true) (basePath : String) :
    effectivePath basePath path true = if path = "" then "" else basePath ++ path := by
  have hhttp : startsWith path "http://" = false := startsWith_of_isBlank h rfl (by decide)
  have hhttps : startsWith path "https://" = false := startsWith_of_isBlank h rfl (by decide)
  unfold effectivePath
  rw [hhttp, hhttps]
  by_cases hempty : path = ""
  · rw [if_pos hempty, hempty]
    rfl
  · rw [if_neg hempty, if_neg (by simpa using hempty), if_neg (by decide)]

/-! ### Calls that take over a URL -/

def takeovers (ss : List Statement) : List String :=
  (callsIn ss).filter fun call => startsWith call "this.takeFrom("

theorem takeovers_append (ss ss' : List Statement) :
    takeovers (ss ++ ss') = takeovers ss ++ takeovers ss' := by
  rw [takeovers, callsIn_append, List.filter_append]
  rfl

theorem takeovers_takeFrom (url : String) :
    takeovers [.expression ("this.takeFrom(" ++ url ++ ")")]
      = ["this.takeFrom(" ++ url ++ ")"] := by
  have hstart : startsWith ("this.takeFrom(" ++ url ++ ")") "this.takeFrom(" = true :=
    startsWith_append (startsWith_append (by decide) url) ")"
  exact List.filter_cons_of_pos hstart

theorem takeovers_of_startsOtherwise {s : Statement} {call : String} (hs : callsOf s = [call])
    (h : StartsOtherwise "this.takeFrom(" call) : takeovers [s] = [] := by
  rw [takeovers, callsIn_singleton, hs, List.filter_cons_of_neg, List.filter_nil]
  rw [h.startsWith_eq_false]
  decide

theorem startsOtherwise_query (encoded : Bool) :
    StartsOtherwise "this.takeFrom(" ("this." ++ queryTarget encoded) := by
  cases encoded <;> decide

theorem startsOtherwise_fragment (encoded : Bool) :
    StartsOtherwise "this.takeFrom(" ("this." ++ fragmentTarget encoded) := by
  cases encoded <;> decide

theorem takeovers_emits {p : ParameterModel} {r : Role} {s : Statement} (h : Emits p r s)
    (hgroup : groupOf r.kind = .queries ∨ groupOf r.kind = .fragments) : takeovers [s] = [] := by
  cases r with
  | query name encoded =>
    obtain ⟨v, hcalls⟩ := RunsOn.calls h
    refine takeovers_of_startsOtherwise hcalls ?_
    iterate 5 apply StartsOtherwise.append
    exact startsOtherwise_query encoded
  | queryName encoded =>
    obtain ⟨v, hcalls⟩ := RunsOn.calls h
    refine takeovers_of_startsOtherwise hcalls ?_
    iterate 3 apply StartsOtherwise.append
    exact startsOtherwise_query encoded
  | queryMap encoded =>
    obtain ⟨key, v, hcalls⟩ := RunsOnEntries.calls h
    refine takeovers_of_startsOtherwise hcalls ?_
    iterate 5 apply StartsOtherwise.append
    exact startsOtherwise_query encoded
  | fragment encoded =>
    obtain ⟨v, hcalls⟩ := RunsOn.calls h
    refine takeovers_of_startsOtherwise hcalls ?_
    iterate 2 apply StartsOtherwise.append
    exact startsOtherwise_fragment encoded
  | _ => simp [groupOf, Role.kind] at hgroup

/-- Queries and fragments leave the URL as it is. -/
theorem takeovers_emitsAll {f : FunctionModel} {g : RoleGroup} {ss : List Statement}
    (hg : g = .queries ∨ g = .fragments) (h : EmitsAll (usesIn f g) ss) : takeovers ss = [] := by
  have hgroup : ∀ use ∈ usesIn f g,
      groupOf use.2.kind = .queries ∨ groupOf use.2.kind = .fragments := by
    intro use huse
    rw [eq_of_beq (List.mem_filter.mp huse).2]
    exact hg
  generalize usesIn f g = uses at h hgroup
  induction h with
  | nil => rfl
  | @cons use s uses ss hemits _ ih =>
    obtain ⟨hrole, hrest⟩ := List.forall_mem_cons.mp hgroup
    have happend := takeovers_append [s] ss
    rw [takeovers_emits hemits hrole, ih hrest] at happend
    exact happend

theorem takeovers_ownFragment (f : FunctionModel) : takeovers (ownFragment f) = [] := by
  unfold ownFragment
  split
  · rename_i value encoded _
    exact takeovers_of_startsOtherwise rfl (((startsOtherwise_fragment encoded).append _).append _)
  · rfl

theorem takeovers_pathStatements (f : FunctionModel) (pieces : List PathPiece) :
    takeovers (pathStatements f pieces)
      = if f.path.isEmpty then [] else ["this.takeFrom(" ++ pathLiteral pieces ++ ")"] := by
  unfold pathStatements
  split
  · rfl
  · exact takeovers_takeFrom _

/-! ### Requests to a given URL -/

/-- The calls that take over a URL in a request whose parameter gives it. -/
theorem takeovers_url {f : FunctionModel} {p : ParameterModel} {pieces : List PathPiece}
    {r : Population} (hroles : ∀ q ∈ f.parameters, hasTooManyRoles q = false)
    (hp : f.parametersWith .url = [p]) (hr : Complete f pieces r) :
    takeovers r.url = ("this.takeFrom(" ++ p.name ++ ")")
      :: (if f.path.isEmpty then [] else ["this.takeFrom(" ++ pathLiteral pieces ++ ")"]) := by
  obtain ⟨urls, queries, fragments, hurls, hqueries, hfragments, hlayout⟩ := hr.url
  rw [usesIn_urls hroles, hp] at hurls
  have hown : takeovers urls = ["this.takeFrom(" ++ p.name ++ ")"] := by
    cases hurls with
    | cons hemits hrest =>
      cases hrest
      rw [hemits]
      exact takeovers_takeFrom p.name
  rw [hlayout, takeovers, callsIn_blockUnlessEmpty]
  change takeovers _ = _
  rw [takeovers_append, takeovers_append, takeovers_append, takeovers_append, hown,
    takeovers_pathStatements, takeovers_emitsAll (.inl rfl) hqueries, takeovers_ownFragment,
    takeovers_emitsAll (.inr rfl) hfragments]
  simp

/-- A parameter that gives the URL is the only one that does, neither a vararg nor nullable,
    and no path parameter is beside it; its path is blank.  It has the last word about the
    URL when the path is empty, and a blank path otherwise follows it behind the base path. -/
theorem url_owned {m m' : InterfaceModel} {o : Options} {log log' : Log} (hm : m.IsExtracted)
    (hvalidate : (validate Check.all m o).run.run log = (.ok (some m'), log'))
    {f : FunctionModel} (hf : f ∈ m'.generatedFunctions) (hurl : f.hasRole .url = true) :
    ∃ p, f.TakesUrl p ∧ isBlank f.httpMethod.path = true
      ∧ f.path = Template.parse
        (if f.httpMethod.path = "" then "" else m'.options.basePath ++ f.httpMethod.path)
      ∧ ∃ pieces, bindPath f = .ok pieces
        ∧ ∀ names, takeovers ((writePopulation f pieces).run names).1.url
          = ("this.takeFrom(" ++ p.name ++ ")")
            :: (if f.httpMethod.path = "" then []
              else ["this.takeFrom(" ++ pathLiteral pieces ++ ")"]) := by
  obtain ⟨rfl, haccepted⟩ := accepted_of_validate hvalidate
  obtain ⟨p, hp⟩ := haccepted.url hf hurl
  have hchecked := haccepted.function hf
  have hread := hm.isRead (List.mem_filter.mp hf).1
  have hblank := isBlank_of_samplePath hp.blank
  have hpath := hread.path
  rw [hurl, effectivePath_of_isBlank hblank] at hpath
  obtain ⟨pieces, hbind, hparts⟩ := bindPath_eq_ok hchecked.path
  refine ⟨p, hp, hblank, hpath, pieces, hbind, fun names => ?_⟩
  rw [takeovers_url hchecked.roles hp.only (writePopulation_writes hread hchecked hparts names),
    hpath, Template.parse, Template.isEmpty]
  -- the effective path is empty exactly when the given one is
  by_cases hempty : f.httpMethod.path = ""
  · rw [if_pos hempty, if_pos hempty]
    rfl
  · rw [if_neg hempty, if_neg hempty, if_neg]
    simp [hempty]

def targeting (path : String) : ClassDeclaration :=
  { ClassDeclaration.holding "Links" [.getting path
      [⟨"target", .named TypeName.string, false, [.named "Url"]⟩] (.named TypeName.string)] with
    annotations := [⟨"KtorGen", [("basePath", .string "api/")]⟩] }

theorem url_owned_of_targeting :
    let m := (targeting "").resolvedModel [] ⟨"Links.kt", []⟩
    ∃ f ∈ m.generatedFunctions, f.hasRole .url = true ∧ f.httpMethod.path = "" ∧ ∃ p, f.TakesUrl p
      ∧ f.path = Template.parse "" ∧ ∃ pieces, bindPath f = .ok pieces
        ∧ ∀ names, takeovers ((writePopulation f pieces).run names).1.url
          = ["this.takeFrom(" ++ p.name ++ ")"] := by
  intro m
  have hm : m.IsExtracted := ClassDeclaration.isExtracted_of_isReady rfl (by decide +kernel)
  have haccepted : Accepted Check.all m .default := errorsOf_eq_zero.mp (by decide +kernel)
  obtain ⟨log', hvalidate⟩ := validate_of_accepted rfl haccepted (.opened "")
  obtain ⟨f, hf, hurl, hempty⟩ : ∃ f ∈ m.generatedFunctions,
      f.hasRole .url = true ∧ f.httpMethod.path = "" := by
    decide +kernel
  obtain ⟨p, hp, -, hpath, pieces, hbind, htakeovers⟩ := url_owned hm hvalidate hf hurl
  simp only [if_pos hempty] at hpath htakeovers
  exact ⟨f, hf, hurl, hempty, p, hp, hpath, pieces, hbind, htakeovers⟩

/-- A path of one blank is taken over behind the given URL. -/
theorem url_may_be_replaced :
    ¬ ∀ (m m' : InterfaceModel) (o : Options) (log log' : Log), m.IsExtracted →
      (validate Check.all m o).run.run log = (.ok (some m'), log') →
      ∀ f ∈ m'.generatedFunctions, f.hasRole .url = true →
        ∃ p, f.parametersWith .url = [p] ∧ p.isVararg = false ∧ p.type.nullable = false
          ∧ f.parametersWith .path = [] ∧ f.path.isEmpty = true
          ∧ ∃ pieces, bindPath f = .ok pieces
            ∧ ∀ names, takeovers ((writePopulation f pieces).run names).1.url
              = ["this.takeFrom(" ++ p.name ++ ")"] := by
  intro h
  let m := (targeting " ").resolvedModel [] ⟨"Links.kt", []⟩
  have hm : m.IsExtracted := ClassDeclaration.isExtracted_of_isReady rfl (by decide +kernel)
  have haccepted : Accepted Check.all m .default := errorsOf_eq_zero.mp (by decide +kernel)
  obtain ⟨log', hvalidate⟩ := validate_of_accepted rfl haccepted (.opened "")
  obtain ⟨f, hf, hurl, hpath⟩ : ∃ f ∈ m.generatedFunctions,
      f.hasRole .url = true ∧ f.path.isEmpty = false := by
    decide +kernel
  obtain ⟨p, -, -, -, -, hempty, -⟩ := h m m .default _ log' hm hvalidate f hf hurl
  rw [hpath] at hempty
  cases hempty

end ClientGen.Request
