/-
  ClientGen/Proofs/Request/Sections.lean
  ======================================
  **What each section of a request holds.**

  Every section is written by a function of its own, and some of these look only at the
  first role or the first parameter of a kind.  Where a check leaves no second one, the
  section still holds exactly the emissions of its groups.  Next to that stands how often
  it sets the body: never, but for the section of the body.
-/
import ClientGen.Proofs.Request.Emission
import ClientGen.Proofs.Request.PathWriting

namespace ClientGen.Request

open ClientGen.Code ClientGen.Path ClientGen.Text ClientGen.Validation

/-! ### Calls that set the body -/

/-- The calls that set the body. -/
def bodyCalls (ss : List Statement) : List String :=
  (callsIn ss).filter isSetBody

theorem bodyCalls_append (ss ss' : List Statement) :
    bodyCalls (ss ++ ss') = bodyCalls ss ++ bodyCalls ss' := by
  unfold bodyCalls
  rw [callsIn_append, List.filter_append]

theorem bodyCalls_plain (opening : String) (body : List Statement) :
    bodyCalls [.block (.plain opening body)] = bodyCalls body := by
  unfold bodyCalls
  rw [callsIn_singleton, callsOf_plain]

theorem bodyCalls_expression {call : String} (h : isSetBody call = true) :
    bodyCalls [.expression call] = [call] :=
  List.filter_cons_of_pos h

/-- No call sets the body. -/
def Quiet (ss : List Statement) : Prop :=
  bodyCalls ss = []

theorem Quiet.nil : Quiet [] := rfl

theorem Quiet.append {ss ss' : List Statement} (h : Quiet ss) (h' : Quiet ss') :
    Quiet (ss ++ ss') := by
  unfold Quiet at h h' ⊢
  rw [bodyCalls_append, h, h', List.append_nil]

theorem Quiet.singleton {s : Statement} {call : String} (hs : callsOf s = [call])
    (h : IsOther call) : Quiet [s] := by
  unfold Quiet bodyCalls
  rw [callsIn_singleton, hs, List.filter_cons_of_neg (by rw [h.isSetBody]; decide)]
  rfl

theorem Quiet.cons {s : Statement} {ss : List Statement} (h : Quiet [s]) (h' : Quiet ss) :
    Quiet (s :: ss) :=
  Quiet.append h h'

theorem Quiet.block {opening : String} {body : List Statement} (h : Quiet body) :
    Quiet [.block (.plain opening body)] :=
  (bodyCalls_plain opening body).trans h

theorem Quiet.blockUnlessEmpty {opening : String} {body : List Statement} (h : Quiet body) :
    Quiet (blockUnlessEmpty opening body) := by
  unfold Request.blockUnlessEmpty
  split
  · exact .nil
  · exact .block h

theorem Quiet.value (name init : String) : Quiet [.value name init] := rfl

/-- Beside quiet statements a call that sets the body is the only one. -/
theorem Quiet.length_bodyCalls {ss : List Statement} (h : Quiet ss) {call : String}
    (hcall : isSetBody call = true) : (bodyCalls (ss ++ [.expression call])).length = 1 := by
  rw [bodyCalls_append, h, bodyCalls_expression hcall]
  rfl

/-- Only the group of the body sets it. -/
theorem EmitsAll.quiet {f : FunctionModel} {g : RoleGroup} {ss : List Statement}
    (h : EmitsAll (usesIn f g) ss) (hg : g ≠ .body) : Quiet ss := by
  have hroles : ∀ use ∈ usesIn f g, use.2 ≠ .body := by
    intro use huse hbody
    have hgroup := (List.mem_filter.mp huse).2
    rw [hbody] at hgroup
    exact hg (eq_of_beq hgroup).symm
  generalize usesIn f g = uses at h hroles
  induction h with
  | nil => exact .nil
  | cons hemits _ ih =>
    obtain ⟨hrole, hrest⟩ := List.forall_mem_cons.mp hroles
    obtain ⟨call, hcall, hother⟩ := hemits.calls
    exact .cons (.singleton hcall (hother hrole)) (ih hrest)

/-! ### Builders and the method -/

/-- The statement by which a builder shapes the request. -/
inductive Shapes (p : ParameterModel) : Statement → Prop
  | takenOver {s : Statement} (kind : p.builder = some .takeFrom)
      (on : RunsOn (fun v => "this.takeFrom(" ++ v.code ++ ")") p.name s) : Shapes p s
  | run (kind : p.builder = some .lambda) (notNull : p.type.nullable = false) :
      Shapes p (.expression (p.name ++ "(this)"))
  | runUnlessNull (kind : p.builder = some .lambda) (null : p.type.nullable = true) :
      Shapes p (.expression (p.name ++ "?.invoke(this)"))

theorem buildersOf_eq (f : FunctionModel) (k : BuilderKind) :
    buildersOf f k = f.builderParameters.filter fun p => p.builder == some k := by
  unfold buildersOf FunctionModel.builderParameters
  rw [List.filter_filter]
  refine List.filter_congr fun p _ => ?_
  cases p.builder <;> simp

theorem writeTakenRequest_writes (p : ParameterModel) :
    Writes (writeTakenRequest p) fun s =>
      RunsOn (fun v => "this.takeFrom(" ++ v.code ++ ")") p.name s := by
  unfold writeTakenRequest
  split
  · exact (Writes.trivial _).bind fun _ _ => .pure (eachValue_runsOn _ _ _)
  · exact .pure (eachValue_runsOn _ _ _)

theorem runOnRequest_shapes {p : ParameterModel} (h : p.builder = some .lambda) :
    Shapes p (runOnRequest p) := by
  unfold runOnRequest
  cases hnull : p.type.nullable with
  | false => exact .run h hnull
  | true => exact .runUnlessNull h hnull

/-- With one builder at most, the order of the kinds is the order of declaration. -/
theorem writeBuilders_writes {f : FunctionModel} (h : f.builderParameters.length ≤ 1) :
    Writes (writeBuilders f) (List.Forall₂ Shapes f.builderParameters) := by
  unfold writeBuilders
  refine (Writes.mapM fun p _ => writeTakenRequest_writes p).bind fun taken htaken => ?_
  apply Writes.pure
  rw [buildersOf_eq] at htaken ⊢
  have hsome : ∀ p ∈ f.builderParameters, p.builder.isSome = true := fun p hp =>
    (List.mem_filter.mp hp).2
  match hbuilders : f.builderParameters with
  | [] =>
    rw [hbuilders] at htaken
    cases htaken
    exact .nil
  | [p] =>
    rw [hbuilders] at htaken hsome
    have hp := hsome p (List.mem_singleton_self p)
    cases hkind : p.builder with
    | none => rw [hkind] at hp; cases hp
    | some kind =>
      cases kind with
      | takeFrom =>
        rw [List.filter_cons_of_pos (by rw [hkind]; decide), List.filter_nil] at htaken
        rw [List.filter_cons_of_neg (by rw [hkind]; decide)]
        cases htaken with
        | cons hs hrest =>
          cases hrest
          exact .cons (.takenOver hkind hs) .nil
      | lambda =>
        rw [List.filter_cons_of_neg (by rw [hkind]; decide), List.filter_nil] at htaken
        rw [List.filter_cons_of_pos (by rw [hkind]; decide)]
        cases htaken
        exact .cons (runOnRequest_shapes hkind) .nil
  | p :: q :: rest =>
    rw [hbuilders] at h
    simp at h

theorem writeMethod_writes (m : HttpMethod) :
    Writes (writeMethod m) fun ss => (∃ methods, ss = if m = .absent then []
      else [.expression ("this.method = " ++ methodValue methods m)]) ∧ Quiet ss := by
  unfold writeMethod
  by_cases habsent : m = .absent
  · simp only [if_pos habsent]
    exact .pure ⟨⟨"", rfl⟩, .nil⟩
  · simp only [if_neg habsent]
    refine (Writes.trivial _).bind fun methods _ => .pure ⟨⟨methods, rfl⟩, ?_⟩
    have hmethod : IsOther "this.method = " := by decide
    exact .singleton rfl hmethod.append

/-! ### The URL -/

theorem writeUrlBody_writes {f : FunctionModel} (pieces : List PathPiece)
    (hf : ∀ p ∈ f.parameters, hasTooManyRoles p = false) :
    Writes (writeUrlBody f pieces) fun body => ∃ urls queries fragments,
      EmitsAll (usesIn f .urls) urls ∧ EmitsAll (usesIn f .queries) queries
        ∧ EmitsAll (usesIn f .fragments) fragments
        ∧ body = urls ++ pathStatements f pieces ++ queries ++ ownFragment f ++ fragments := by
  unfold writeUrlBody
  refine (Writes.mapM fun p _ => writeTakeFrom_writes p.name).bind fun urls hurls => ?_
  refine (writeOwnPath_writes f pieces).bind ?_
  rintro _ rfl
  refine .pure ⟨urls, _, _, ?_, picks_query.emitsAll f, fragments_emitsAll hf, rfl⟩
  rw [usesIn_urls hf]
  exact List.forall₂_map_left_iff.mpr hurls

theorem quiet_ownFragment (f : FunctionModel) : Quiet (ownFragment f) := by
  unfold ownFragment
  split
  · rename_i value encoded _
    exact .singleton rfl (IsOther.fragment encoded).append.append
  · exact .nil

theorem quiet_pathStatements (f : FunctionModel) (pieces : List PathPiece) :
    Quiet (pathStatements f pieces) := by
  unfold pathStatements
  split
  · exact .nil
  · have htake : IsOther "this.takeFrom(" := by decide
    exact .singleton rfl htake.append.append

theorem writeUrl_writes {f : FunctionModel} (pieces : List PathPiece)
    (hf : ∀ p ∈ f.parameters, hasTooManyRoles p = false) :
    Writes (writeUrl f pieces) fun ss => (∃ urls queries fragments,
      EmitsAll (usesIn f .urls) urls ∧ EmitsAll (usesIn f .queries) queries
        ∧ EmitsAll (usesIn f .fragments) fragments
        ∧ ss = blockUnlessEmpty "this.url"
            (urls ++ pathStatements f pieces ++ queries ++ ownFragment f ++ fragments))
      ∧ Quiet ss := by
  unfold writeUrl
  refine (writeUrlBody_writes pieces hf).bind ?_
  rintro _ ⟨urls, queries, fragments, hurls, hqueries, hfragments, rfl⟩
  refine .pure ⟨⟨urls, queries, fragments, hurls, hqueries, hfragments, rfl⟩, ?_⟩
  refine .blockUnlessEmpty (.append (.append (.append (.append ?_ ?_) ?_) ?_) ?_)
  · exact hurls.quiet (by decide)
  · exact quiet_pathStatements f pieces
  · exact hqueries.quiet (by decide)
  · exact quiet_ownFragment f
  · exact hfragments.quiet (by decide)

/-! ### Headers and cookies -/

theorem quiet_rawHeaders (f : FunctionModel) : Quiet (f.rawHeaders.filterMap entryHeader?) := by
  induction f.rawHeaders with
  | nil => exact .nil
  | cons entry entries ih =>
    cases hentry : entryHeader? entry with
    | none =>
      rw [List.filterMap_cons_none hentry]
      exact ih
    | some s =>
      rw [List.filterMap_cons_some hentry]
      obtain ⟨e, -, rfl⟩ := Option.map_eq_some_iff.mp hentry
      exact .cons (.singleton rfl (IsOther.appended _ _)) ih

/-- The content type that a form gives, by the written name of the content types. -/
def formContentType (f : FunctionModel) (types : String) : List Statement :=
  if f.isFormUrl && !f.isMultipart then
    [.expression ("this.contentType(" ++ types ++ ".Application.FormUrlEncoded)")]
  else []

theorem length_formContentType (f : FunctionModel) (types : String) :
    (formContentType f types).length = if f.isFormUrl && !f.isMultipart then 1 else 0 := by
  unfold formContentType
  split <;> rfl

theorem quiet_formContentType (f : FunctionModel) (types : String) :
    Quiet (formContentType f types) := by
  unfold formContentType
  split
  · have hset : IsOther "this.contentType(" := by decide
    exact .singleton rfl hset.append.append
  · exact .nil

theorem writeContentType_writes (f : FunctionModel) :
    Writes (writeContentType f) fun ss => ∃ types, ss = formContentType f types := by
  unfold writeContentType formContentType
  split
  · have hname : (splitLast Library.setContentType).map Prod.snd = some "contentType" := by
      decide
    refine (Writes.member hname).bind ?_
    rintro _ rfl
    exact (Writes.trivial _).bind fun types _ => .pure ⟨types, rfl⟩
  · exact .pure ⟨"", rfl⟩

theorem writeHeaderBlock_writes (body : List Statement) :
    Writes (writeHeaderBlock body) (· = blockUnlessEmpty "this.headers" body) := by
  unfold writeHeaderBlock blockUnlessEmpty
  split
  · exact .pure rfl
  · have hname : (splitLast Library.headers).map Prod.snd = some "headers" := by decide
    refine (Writes.member hname).bind ?_
    rintro _ rfl
    exact .pure rfl

/-- The type of a form stands in front of the header block and in no other place. -/
theorem writeHeaders_layout (f : FunctionModel) :
    Writes (writeHeaders f) fun ss => ∃ types,
      ss = formContentType f types ++ blockUnlessEmpty "this.headers" (headerBody f) := by
  unfold writeHeaders
  refine (writeContentType_writes f).bind ?_
  rintro _ ⟨types, rfl⟩
  refine (writeHeaderBlock_writes _).bind ?_
  rintro _ rfl
  exact .pure ⟨types, rfl⟩

theorem writeHeaders_writes (f : FunctionModel) :
    Writes (writeHeaders f) fun ss => (∃ contentType headers, EmitsAll (usesIn f .headers) headers
      ∧ contentType.length = (if f.isFormUrl && !f.isMultipart then 1 else 0)
      ∧ ss = contentType ++ blockUnlessEmpty "this.headers"
          (headers ++ f.rawHeaders.filterMap entryHeader?)) ∧ Quiet ss := by
  refine (writeHeaders_layout f).imp ?_
  rintro _ ⟨types, rfl⟩
  have hheaders := picks_header.emitsAll f
  refine ⟨⟨_, _, hheaders, length_formContentType f types, rfl⟩, ?_⟩
  refine (quiet_formContentType f types).append (.blockUnlessEmpty ?_)
  exact (hheaders.quiet (by decide)).append (quiet_rawHeaders f)

theorem writeCookie_writes (c : Cookie) :
    Writes (writeCookie c) fun statement =>
      ∃ expires, ∀ value, statement value = .expression (cookieCall c expires value) := by
  unfold writeCookie
  have hname : (splitLast Library.cookie).map Prod.snd = some "cookie" := by decide
  refine (Writes.member hname).bind ?_
  rintro _ rfl
  exact (Writes.trivial _).bind fun expires _ => .pure ⟨expires, fun value => rfl⟩

theorem writeOwnCookie_writes (c : Cookie) :
    Writes (writeOwnCookie c) fun s => Quiet [s] := by
  refine (writeCookie_writes c).bind fun statement hstatement => .pure ?_
  obtain ⟨expires, hstatement⟩ := hstatement
  rw [hstatement]
  exact .singleton rfl (IsOther.cookieCall _ _ _)

theorem writeParameterCookie_writes (p : ParameterModel) (c : Cookie) :
    Writes (writeParameterCookie p c) (Emits p (.cookie c)) := by
  refine (writeCookie_writes c).bind fun statement hstatement => ?_
  obtain ⟨expires, hstatement⟩ := hstatement
  simp only [hstatement]
  cases hvalue : c.value with
  | literal value =>
    refine .pure ⟨expires, ?_⟩
    simp only [hvalue]
  | fromParameter =>
    refine .pure ⟨expires, ?_⟩
    simp only [hvalue]
    exact eachValue_runsOn _ _ _

theorem writeCookies_writes (f : FunctionModel) :
    Writes (writeCookies f) fun ss => (∃ own cookies, own.length = f.cookies.length
      ∧ EmitsAll (usesIn f .cookies) cookies ∧ ss = own ++ cookies) ∧ Quiet ss := by
  unfold writeCookies
  refine (Writes.mapM fun c _ => writeOwnCookie_writes c).bind fun own hown => ?_
  refine (Writes.mapM fun use _ => writeParameterCookie_writes use.1 use.2).bind
    fun cookies hcookies => ?_
  have hall : EmitsAll (usesIn f .cookies) cookies := by
    rw [usesIn_cookies]
    exact List.forall₂_map_left_iff.mpr hcookies
  refine .pure ⟨⟨own, cookies, hown.length_eq.symm, hall, rfl⟩, ?_⟩
  refine Quiet.append ?_ (hall.quiet (by decide))
  generalize f.cookies = cs at hown
  induction hown with
  | nil => exact .nil
  | cons h _ ih => exact .cons h ih

/-! ### Bodies -/

/-- The body of a request from the statements of its groups; only one group may have any. -/
inductive BodyLayout : (fields parts bodies ss : List Statement) → Prop
  | parameter (s : Statement) : BodyLayout [] [] [s] [s]
  | multipart (part collect content : String) (parts : List Statement) :
      BodyLayout [] parts []
        [.value partsName ("mutableListOf<" ++ part ++ ">()"),
          .block (.plain ("val " ++ multipartName ++ " = " ++ collect) parts),
          .expression ("this.setBody(" ++ content ++ "(" ++ partsName ++ " + " ++ multipartName
            ++ "))")]
  | form (parameters content : String) (fields : List Statement) :
      BodyLayout fields [] []
        [.block (.plain ("val " ++ formName ++ " = " ++ parameters ++ ".build") fields),
          .expression ("this.setBody(" ++ content ++ "(" ++ formName ++ "))")]
  | absent : BodyLayout [] [] [] []

/-- Statements that hold the whole body of a function. -/
def IsBody (f : FunctionModel) (ss : List Statement) : Prop :=
  ∃ fields parts bodies, EmitsAll (usesIn f .fields) fields ∧ EmitsAll (usesIn f .parts) parts
    ∧ EmitsAll (usesIn f .body) bodies ∧ BodyLayout fields parts bodies ss

theorem usesIn_eq_nil {f : FunctionModel} {g : RoleGroup}
    (h : ∀ k, groupOf k = g → f.hasRole k = false) : usesIn f g = [] := by
  unfold usesIn
  rw [List.filter_eq_nil_iff]
  rintro ⟨p, r⟩ huse hgroup
  unfold roleUses at huse
  obtain ⟨q, hq, hrole⟩ := List.mem_flatMap.mp huse
  obtain ⟨r', hr', heq⟩ := List.mem_map.mp hrole
  cases heq
  have hnone := h r.kind (eq_of_beq hgroup)
  have hsome : f.hasRole r.kind = true :=
    List.any_eq_true.mpr ⟨p, hq, List.any_eq_true.mpr ⟨r, hr', beq_self_eq_true _⟩⟩
  rw [hsome] at hnone
  cases hnone

theorem emitsAll_nil {f : FunctionModel} {g : RoleGroup}
    (h : ∀ k, groupOf k = g → f.hasRole k = false) : EmitsAll (usesIn f g) [] := by
  rw [usesIn_eq_nil h]
  exact .nil

theorem emitsAll_fields_nil {f : FunctionModel} (h : f.isFormUrl = false) :
    EmitsAll (usesIn f .fields) [] := by
  unfold FunctionModel.isFormUrl at h
  simp only [Bool.or_eq_false_iff] at h
  refine emitsAll_nil fun k hk => ?_
  cases k <;> first | exact h.1.2 | exact h.2 | cases hk

theorem emitsAll_parts_nil {f : FunctionModel} (h : f.isMultipart = false) :
    EmitsAll (usesIn f .parts) [] := by
  unfold FunctionModel.isMultipart at h
  simp only [Bool.or_eq_false_iff] at h
  refine emitsAll_nil fun k hk => ?_
  cases k <;> first | exact h.1.2 | exact h.2 | cases hk

theorem emitsAll_body_nil {f : FunctionModel} (h : f.hasBodyParameter = false) :
    EmitsAll (usesIn f .body) [] := by
  refine emitsAll_nil fun k hk => ?_
  cases k <;> first | exact h | cases hk

theorem writeDecoder_writes (encoded : Bool) :
    Writes (writeDecoder encoded) (· = decoderOf encoded) := by
  unfold writeDecoder decoderOf
  cases encoded with
  | false => exact .pure rfl
  | true =>
    have hname : (splitLast Library.decodeQueryComponent).map Prod.snd
        = some "decodeURLQueryComponent" := by
      decide
    refine (Writes.member hname).bind ?_
    rintro _ rfl
    exact .pure rfl

theorem writeField?_writes (p : ParameterModel) (r : Role) :
    Writes (writeField? p r) (IsPicked .fields p r) := by
  cases r with
  | field name encoded =>
    refine (writeDecoder_writes encoded).bind ?_
    rintro _ rfl
    exact .pure (.inl ⟨rfl, _, rfl, eachValue_runsOn _ _ _⟩)
  | fieldMap encoded =>
    refine (writeDecoder_writes encoded).bind ?_
    rintro _ rfl
    exact .pure (.inl ⟨rfl, _, rfl, eachEntry_runsOn _ p⟩)
  | _ => exact .pure (.inr ⟨by simp [Role.kind, groupOf], rfl⟩)

theorem writeFields_writes (f : FunctionModel) :
    Writes (writeFields f) (EmitsAll (usesIn f .fields)) := by
  unfold writeFields
  refine (Writes.mapM fun use _ => writeField?_writes use.1 use.2).bind fun fields hfields => ?_
  apply Writes.pure
  unfold usesIn
  generalize roleUses f = uses at hfields
  induction hfields with
  | nil => exact .nil
  | cons hpicked _ ih =>
    rcases hpicked with ⟨hgroup, s, rfl, hemits⟩ | ⟨hgroup, rfl⟩
    · rw [List.filter_cons_of_pos (by simpa using hgroup)]
      exact .cons hemits ih
    · rw [List.filter_cons_of_neg (by simpa using hgroup)]
      exact ih

theorem setBody_name : (splitLast Library.setBody).map Prod.snd = some "setBody" := by
  decide

theorem isSetBody_setBody : isSetBody ("this." ++ "setBody" ++ "(") = true := by
  decide

theorem writeBodyParameter_writes (p : ParameterModel) :
    Writes (writeBodyParameter p) fun ss => ∃ s, ss = [s] ∧ Emits p .body s
      ∧ (bodyCalls ss).length = 1 := by
  refine (Writes.member setBody_name).bind ?_
  rintro _ rfl
  refine .pure ⟨_, rfl, rfl, ?_⟩
  rw [bodyCalls_expression (isSetBody_append (isSetBody_append isSetBody_setBody _) _)]
  rfl

theorem writeMultipart_writes (f : FunctionModel) :
    Writes (writeMultipart f) fun ss => ∃ parts, EmitsAll (usesIn f .parts) parts
      ∧ BodyLayout [] parts [] ss ∧ (bodyCalls ss).length = 1 := by
  unfold writeMultipart
  refine (Writes.trivial _).bind fun part _ => ?_
  refine (Writes.trivial _).bind fun collect _ => ?_
  refine (Writes.trivial _).bind fun content _ => ?_
  refine (Writes.member setBody_name).bind ?_
  rintro _ rfl
  have hparts := picks_part.emitsAll f
  refine .pure ⟨_, hparts, .multipart part collect content _, ?_⟩
  have hquiet : Quiet [.value partsName ("mutableListOf<" ++ part ++ ">()"),
      .block (.plain ("val " ++ multipartName ++ " = " ++ collect)
        (roleStatements f partStatement?))] :=
    .cons (.value _ _) (.block (hparts.quiet (by decide)))
  have hset : isSetBody ("this." ++ "setBody" ++ "(" ++ content ++ "(" ++ partsName ++ " + "
      ++ multipartName ++ "))") = true := by
    iterate 6 apply isSetBody_append
    exact isSetBody_setBody
  exact hquiet.length_bodyCalls hset

theorem writeForm_writes (f : FunctionModel) :
    Writes (writeForm f) fun ss => ∃ fields, EmitsAll (usesIn f .fields) fields
      ∧ BodyLayout fields [] [] ss ∧ (bodyCalls ss).length = 1 := by
  unfold writeForm
  refine (writeFields_writes f).bind fun fields hfields => ?_
  refine (Writes.trivial _).bind fun parameters _ => ?_
  refine (Writes.trivial _).bind fun content _ => ?_
  refine (Writes.member setBody_name).bind ?_
  rintro _ rfl
  refine .pure ⟨fields, hfields, .form parameters content fields, ?_⟩
  have hquiet : Quiet [.block (.plain ("val " ++ formName ++ " = " ++ parameters ++ ".build")
      fields)] :=
    .block (hfields.quiet (by decide))
  have hset : isSetBody ("this." ++ "setBody" ++ "(" ++ content ++ "(" ++ formName ++ "))")
      = true := by
    iterate 4 apply isSetBody_append
    exact isSetBody_setBody
  exact hquiet.length_bodyCalls hset

/-- Two styles are one too many. -/
theorem other_styles {f : FunctionModel} (h : bodyStyles f ≤ 1) :
    (f.hasBodyParameter = true → f.isFormUrl = false ∧ f.isMultipart = false)
      ∧ (f.isMultipart = true → f.isFormUrl = false) := by
  unfold bodyStyles at h
  revert h
  cases f.hasBodyParameter <;> cases f.isFormUrl <;> cases f.isMultipart <;> decide

/-- With one style at most, the style that is written is the only one. -/
theorem writeBody_writes {f : FunctionModel}
    (hf : ∀ p ∈ f.parameters, hasTooManyRoles p = false) (hstyles : bodyStyles f ≤ 1)
    (hbodies : (f.parametersWith .body).length ≤ 1) :
    Writes (writeBody f) fun ss =>
      IsBody f ss ∧ (bodyCalls ss).length = if f.hasBody then 1 else 0 := by
  obtain ⟨hparameterOnly, hmultipartOnly⟩ := other_styles hstyles
  have hparameter := f.hasRole_eq_isEmpty .body
  unfold writeBody BodyStyle.of FunctionModel.hasBody
  match hwith : f.parametersWith .body with
  | p :: q :: rest =>
    rw [hwith] at hbodies
    simp at hbodies
  | [p] =>
    rw [hwith] at hparameter
    obtain ⟨hform, hmultipart⟩ := hparameterOnly hparameter
    refine (writeBodyParameter_writes p).imp ?_
    rintro _ ⟨s, rfl, hemits, hcount⟩
    refine ⟨⟨[], [], [s], emitsAll_fields_nil hform, emitsAll_parts_nil hmultipart, ?_,
      .parameter s⟩, ?_⟩
    · rw [usesIn_body hf, hwith]
      exact .cons hemits .nil
    · rw [hcount, show f.hasBodyParameter = true from hparameter]
      rfl
  | [] =>
    rw [hwith] at hparameter
    have hnone := emitsAll_body_nil hparameter
    cases hmultipart : f.isMultipart with
    | true =>
      have hform := emitsAll_fields_nil (hmultipartOnly hmultipart)
      refine (writeMultipart_writes f).imp ?_
      rintro ss ⟨parts, hparts, hlayout, hcount⟩
      refine ⟨⟨[], parts, [], hform, hparts, hnone, hlayout⟩, ?_⟩
      rw [hcount, Bool.or_true]
      rfl
    | false =>
      have hparts := emitsAll_parts_nil hmultipart
      cases hform : f.isFormUrl with
      | true =>
        refine (writeForm_writes f).imp ?_
        rintro ss ⟨fields, hfields, hlayout, hcount⟩
        refine ⟨⟨fields, [], [], hfields, hparts, hnone, hlayout⟩, ?_⟩
        rw [hcount, Bool.or_true]
        rfl
      | false =>
        refine .pure ⟨⟨[], [], [], emitsAll_fields_nil hform, hparts, hnone, .absent⟩, ?_⟩
        rw [show f.hasBodyParameter = false from hparameter]
        rfl

/-! ### Tags -/

theorem writeTag_writes (p : ParameterModel) (name : String) :
    Writes (writeTag p name) (Emits p (.tag name)) := by
  unfold writeTag
  refine (Writes.trivial _).bind fun key _ => ?_
  refine (Writes.trivial _).bind fun type _ => .pure ⟨key, type, ?_⟩
  exact eachValue_runsOn (fun v => tagCall key type name v.code) _ _

theorem writeTags_writes {f : FunctionModel}
    (hf : ∀ p ∈ f.parameters, hasTooManyRoles p = false) :
    Writes (writeTags f) (EmitsAll (usesIn f .tags)) := by
  have htagged : Writes ((tagged f).mapM fun use => writeTag use.1 use.2)
      (List.Forall₂ (fun use => Emits use.1 (.tag use.2)) (tagged f)) :=
    Writes.mapM fun use _ => writeTag_writes use.1 use.2
  refine htagged.imp fun tags htags => ?_
  rw [usesIn_tags hf]
  exact List.forall₂_map_left_iff.mpr htags

end ClientGen.Request
