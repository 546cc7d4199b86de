/-
  ClientGen/Proofs/Request/Calm.lean
  ==================================
  **What populating a request leaves to the body around it.**

  The statements of a request describe it and do nothing else (`Calm`): none of them
  executes a request, asks for the running coroutine or passes a value on.  Names of
  parameters are not the generator's words and could be anything; what the generator puts
  behind or in front of them tells every call and every block apart.
-/
import ClientGen.Proofs.Code.Nesting
import ClientGen.Proofs.Request.Sections
import ClientGen.Proofs.Validation.Checked

namespace ClientGen.Request

open ClientGen.Code ClientGen.Text

/-! ### Calm calls -/

/-- The call neither asks for the running coroutine nor passes a value on. -/
structure IsCalmCall (call : String) : Prop where
  context : ∀ member, call ≠ "currentCoroutineContext()." ++ (member ++ "()")
  unit : call ≠ "emit(Unit)"
  result : call ≠ "emit(_result)"

/-- The call starts like none that is not calm. -/
def StartsCalmly (call : String) : Prop :=
  StartsOtherwise "currentCoroutineContext()." call ∧ StartsOtherwise "emit(" call

instance (call : String) : Decidable (StartsCalmly call) :=
  inferInstanceAs (Decidable (_ ∧ _))

namespace StartsCalmly

variable {call : String}

theorem append (h : StartsCalmly call) (rest : String) : StartsCalmly (call ++ rest) :=
  ⟨h.1.append rest, h.2.append rest⟩

theorem isCalmCall (h : StartsCalmly call) : IsCalmCall call where
  context := fun member => h.1.ne (member ++ "()")
  unit := h.2.ne "Unit)"
  result := h.2.ne "_result)"

/-- Calls on the request and its parts. -/
theorem this (rest : String) : StartsCalmly ("this." ++ rest) := by
  have hthis : StartsCalmly "this." := by decide
  exact hthis.append rest

end StartsCalmly

/-! ### Calm statements -/

section Statements

variable {client : String}

theorem calm_of_call {call : String} (h : IsCalmCall call) : Calm client [.expression call] :=
  .expression
    { request := id
      context := fun ⟨member, hmember⟩ => h.context member hmember
      stream := fun hstream => hstream.elim h.unit h.result
      ends := True.intro }

theorem StartsCalmly.calm {call : String} (h : StartsCalmly call) :
    Calm client [.expression call] :=
  calm_of_call h.isCalmCall

theorem not_executes_of_opening {b : Block} (h : EndsOtherwise ".request" b.opening) :
    ¬ b.Executes client := by
  rintro ⟨front, hfront⟩
  rw [← String.append_assoc] at hfront
  exact h.ne _ hfront

/-- A block is calm when its opening is not that of an executed request. -/
theorem calm_of_opening {b : Block} (h : EndsOtherwise ".request" b.opening)
    (hclosing : b.closing = "") (hbody : Calm client b.body) (hbranches : b.branches = []) :
    Calm client [.block b] := by
  refine .block ⟨not_executes_of_opening h, id, ?_, hclosing⟩ hbody hbranches
  · rintro ⟨front, hfront⟩
    rw [hclosing] at hfront
    exact absurd (String.append_eq_empty_iff.mp hfront.symm).2 (by decide)

theorem calm_plain {opening : String} {body : List Statement}
    (h : EndsOtherwise ".request" opening) (hbody : Calm client body) :
    Calm client [.block (.plain opening body)] :=
  calm_of_opening h rfl hbody rfl

theorem calm_lambda {opening parameters : String} {body : List Statement}
    (h : EndsOtherwise ".request" opening) (hbody : Calm client body) :
    Calm client [.block (.lambda opening parameters body)] :=
  calm_of_opening h rfl hbody rfl

theorem calm_blockUnlessEmpty {opening : String} {body : List Statement}
    (h : EndsOtherwise ".request" opening) (hbody : Calm client body) :
    Calm client (blockUnlessEmpty opening body) := by
  unfold blockUnlessEmpty
  split
  · exact .nil
  · exact calm_plain h hbody

/-! ### Calls on values and entries -/

theorem endsOtherwise_runners : ∀ runner ∈ runners, EndsOtherwise ".request" runner := by
  decide

theorem endsOtherwise_entryRunners : ∀ runner ∈ entryRunners, EndsOtherwise ".request" runner := by
  decide

theorem RunsOn.calm {call : Value → String} {code : String} {s : Statement}
    (h : RunsOn call code s) (hcall : ∀ v, StartsCalmly (call v)) : Calm client [s] := by
  cases h with
  | itself isText => exact (hcall _).calm
  | each known on isText =>
    rw [on]
    exact calm_plain ((endsOtherwise_runners _ known).prepend code) (hcall _).calm

theorem RunsOnEntry.calm {call : String → Value → String} {item : String} {s : Statement}
    (h : RunsOnEntry call item s) (hcall : ∀ key v, StartsCalmly (call key v)) :
    Calm client [s] := by
  cases h with
  | plain key value isText => exact (hcall _ _).calm
  | guarded key value isText =>
    have hlet : EndsOtherwise ".request" "?.let" := by decide
    exact calm_lambda (hlet.prepend _) (hcall _ _).calm

theorem RunsOnEntries.calm {call : String → Value → String} {code : String} {s : Statement}
    (h : RunsOnEntries call code s) (hcall : ∀ key v, StartsCalmly (call key v)) :
    Calm client [s] := by
  induction h with
  | entries known on inner =>
    rw [on]
    exact calm_lambda ((endsOtherwise_entryRunners _ known).prepend _) (inner.calm hcall)
  | maps inner ih =>
    have hforEach : EndsOtherwise ".request" ".forEach" := by decide
    exact calm_lambda (hforEach.prepend _) ih

/-! ### Emissions -/

theorem StartsCalmly.appended (name value : String) :
    StartsCalmly (Request.appended name value) := by
  have happend : StartsCalmly "this.append(" := by decide
  exact (((happend.append _).append _).append _).append _

theorem StartsCalmly.cookieCall (c : Cookie) (expires value : String) :
    StartsCalmly (Request.cookieCall c expires value) := by
  have hcookie : StartsCalmly "this.cookie(name = " := by decide
  iterate 6 apply StartsCalmly.append
  exact hcookie

/-- Whatever a role asks for is calm. -/
theorem Emits.calm {p : ParameterModel} {r : Role} {s : Statement} (h : Emits p r s) :
    Calm client [s] := by
  cases r with
  | path name encoded => cases h
  | url =>
    rw [h]
    have htake : StartsCalmly "this.takeFrom(" := by decide
    exact ((htake.append _).append _).calm
  | body =>
    rw [h]
    have hset : StartsCalmly "this.setBody(" := by decide
    exact ((hset.append _).append _).calm
  | query name encoded =>
    refine RunsOn.calm h fun v => ?_
    iterate 5 apply StartsCalmly.append
    exact .this _
  | queryName encoded =>
    refine RunsOn.calm h fun v => ?_
    iterate 3 apply StartsCalmly.append
    exact .this _
  | queryMap encoded =>
    refine RunsOnEntries.calm h fun key v => ?_
    iterate 5 apply StartsCalmly.append
    exact .this _
  | fragment encoded =>
    refine RunsOn.calm h fun v => ?_
    iterate 2 apply StartsCalmly.append
    exact .this _
  | header name => exact RunsOn.calm h fun v => .appended _ _
  | headerMap => exact RunsOnEntries.calm h fun key v => .appended _ _
  | field name encoded => exact RunsOn.calm h fun v => .appended _ _
  | fieldMap encoded => exact RunsOnEntries.calm h fun key v => .appended _ _
  | partMap encoding => exact RunsOnEntries.calm h fun key v => .appended _ _
  | part name encoding =>
    unfold Emits at h
    simp only at h
    split at h
    · have hadd : StartsCalmly (partsName ++ ".add(") := by decide
      exact RunsOn.calm h fun v => (hadd.append _).append _
    · exact RunsOn.calm h fun v => .appended _ _
  | cookie c =>
    obtain ⟨expires, h⟩ := h
    split at h
    · rw [h]
      exact (StartsCalmly.cookieCall c _ _).calm
    · exact RunsOn.calm h fun v => .cookieCall c _ _
  | tag name =>
    obtain ⟨key, type, h⟩ := h
    have hput : StartsCalmly "this.attributes.put(" := by decide
    refine RunsOn.calm h fun v => ?_
    iterate 8 apply StartsCalmly.append
    exact hput

theorem calm_of_forall₂ {α : Type} {R : α → Statement → Prop} {xs : List α} {ss : List Statement}
    (h : List.Forall₂ R xs ss) (hcalm : ∀ x s, R x s → Calm client [s]) : Calm client ss := by
  induction h with
  | nil => exact .nil
  | cons hs _ ih => exact .cons (hcalm _ _ hs) ih

theorem EmitsAll.calm {uses : List (ParameterModel × Role)} {ss : List Statement}
    (h : EmitsAll uses ss) : Calm client ss :=
  calm_of_forall₂ h fun _ _ hemits => hemits.calm

/-! ### Sections -/

/-- A call on the request is calm, whatever it is that is called. -/
theorem isCalmCall_onRequest (front : String) : IsCalmCall (front ++ "(this)") where
  context := by
    intro member h
    have hend : EndsOtherwise "()" "(this)" := by decide
    rw [← String.append_assoc] at h
    exact (hend.prepend front).ne _ h
  unit := by
    have hend : EndsOtherwise "emit(Unit)" "(this)" := by decide
    simpa using (hend.prepend front).ne ""
  result := by
    have hend : EndsOtherwise "emit(_result)" "(this)" := by decide
    simpa using (hend.prepend front).ne ""

theorem Shapes.calm {p : ParameterModel} {s : Statement} (h : Shapes p s) : Calm client [s] := by
  cases h with
  | takenOver kind on =>
    have htake : StartsCalmly "this.takeFrom(" := by decide
    exact on.calm fun v => (htake.append _).append _
  | run kind notNull => exact calm_of_call (isCalmCall_onRequest p.name)
  | runUnlessNull kind null =>
    have hcall := isCalmCall_onRequest (p.name ++ "?.invoke")
    rw [String.append_assoc] at hcall
    exact calm_of_call hcall

theorem calm_setFragment (encoded : Bool) (value : String) :
    Calm client [setFragment encoded value] :=
  (((StartsCalmly.this _).append " = ").append value).calm

theorem calm_rawHeaders (f : FunctionModel) :
    Calm client (f.rawHeaders.filterMap entryHeader?) := by
  induction f.rawHeaders with
  | nil => exact .nil
  | cons entry entries ih =>
    cases hentry : entryHeader? entry with
    | none =>
      rw [List.filterMap_cons_none hentry]
      exact ih
    | some s =>
      rw [List.filterMap_cons_some hentry]
      obtain ⟨e, -, rfl⟩ := Option.map_eq_some_iff.mp hentry
      exact .cons (StartsCalmly.appended _ _).calm ih

end Statements

section Sections

variable (client : String) {f : FunctionModel}

theorem writeMethod_calm (m : HttpMethod) : Writes (writeMethod m) (Calm client) := by
  refine (writeMethod_writes m).imp ?_
  rintro _ ⟨⟨methods, rfl⟩, -⟩
  split
  · exact .nil
  · have hmethod : StartsCalmly "this.method = " := by decide
    exact (hmethod.append _).calm

theorem writeUrl_calm (pieces : List PathPiece)
    (hf : ∀ p ∈ f.parameters, Validation.hasTooManyRoles p = false) :
    Writes (writeUrl f pieces) (Calm client) := by
  have hopening : EndsOtherwise ".request" "this.url" := by decide
  refine (writeUrl_writes pieces hf).imp ?_
  rintro _ ⟨⟨urls, queries, fragments, hurls, hqueries, hfragments, rfl⟩, -⟩
  have hpath : Calm client (pathStatements f pieces) := by
    unfold pathStatements
    split
    · exact .nil
    · have htake : StartsCalmly "this.takeFrom(" := by decide
      exact ((htake.append _).append _).calm
  have hfragment : Calm client (ownFragment f) := by
    unfold ownFragment
    split
    · exact calm_setFragment _ _
    · exact .nil
  refine calm_blockUnlessEmpty hopening ?_
  exact (((hurls.calm.append hpath).append hqueries.calm).append hfragment).append hfragments.calm

theorem writeContentType_calm (f : FunctionModel) : Writes (writeContentType f) (Calm client) := by
  unfold writeContentType
  split
  · refine (Writes.trivial _).bind fun set _ => (Writes.trivial _).bind fun types _ => .pure ?_
    exact ((((StartsCalmly.this set).append _).append _).append _).calm
  · exact .pure .nil

theorem writeHeaders_calm (f : FunctionModel) : Writes (writeHeaders f) (Calm client) := by
  have hopening : EndsOtherwise ".request" "this.headers" := by decide
  unfold writeHeaders
  refine (writeContentType_calm client f).bind fun contentType hcontentType => ?_
  refine (writeHeaderBlock_writes _).bind ?_
  rintro _ rfl
  refine .pure (hcontentType.append (calm_blockUnlessEmpty hopening ?_))
  exact (picks_header.emitsAll f).calm.append (calm_rawHeaders f)

theorem writeOwnCookie_calm (c : Cookie) :
    Writes (writeOwnCookie c) fun s => Calm client [s] := by
  refine (writeCookie_writes c).bind fun statement ⟨expires, hstatement⟩ => .pure ?_
  rw [hstatement]
  exact (StartsCalmly.cookieCall _ _ _).calm

theorem writeCookies_calm (f : FunctionModel) : Writes (writeCookies f) (Calm client) := by
  unfold writeCookies
  refine (Writes.mapM fun c _ => writeOwnCookie_calm client c).bind fun own hown => ?_
  refine (Writes.mapM fun use _ => writeParameterCookie_writes use.1 use.2).bind
    fun cookies hcookies => ?_
  refine .pure (.append ?_ ?_)
  · exact calm_of_forall₂ hown fun _ _ h => h
  · exact calm_of_forall₂ hcookies fun _ _ h => h.calm

theorem writeMultipart_calm (f : FunctionModel) : Writes (writeMultipart f) (Calm client) := by
  have hname : (splitLast Library.formData).map Prod.snd = some "formData" := by decide
  have hopening : EndsOtherwise ".request" "formData" := by decide
  unfold writeMultipart
  refine (Writes.trivial _).bind fun part _ => ?_
  refine (Writes.member hname).bind ?_
  rintro _ rfl
  refine (Writes.trivial _).bind fun content _ => ?_
  refine (Writes.trivial _).bind fun setBody _ => .pure ?_
  refine .cons (.value _ _) (.cons (calm_plain (hopening.prepend _) ?_) ?_)
  · exact (picks_part.emitsAll f).calm
  · apply StartsCalmly.calm
    iterate 7 apply StartsCalmly.append
    exact .this setBody

theorem writeForm_calm (f : FunctionModel) : Writes (writeForm f) (Calm client) := by
  have hopening : EndsOtherwise ".request" ".build" := by decide
  unfold writeForm
  refine (writeFields_writes f).bind fun fields hfields => ?_
  refine (Writes.trivial _).bind fun parameters _ => ?_
  refine (Writes.trivial _).bind fun content _ => ?_
  refine (Writes.trivial _).bind fun setBody _ => .pure ?_
  refine .cons (calm_plain (hopening.prepend _) hfields.calm) ?_
  apply StartsCalmly.calm
  iterate 5 apply StartsCalmly.append
  exact .this setBody

theorem writeBody_calm (f : FunctionModel) : Writes (writeBody f) (Calm client) := by
  unfold writeBody
  cases BodyStyle.of f with
  | parameter p =>
    refine (writeBodyParameter_writes p).imp ?_
    rintro _ ⟨s, rfl, hemits, -⟩
    exact hemits.calm
  | multipart => exact writeMultipart_calm client f
  | form => exact writeForm_calm client f
  | absent => exact .pure .nil

/-- Populating a request is calm. -/
theorem writePopulation_calm (hchecked : f.IsChecked) (pieces : List PathPiece) :
    Writes (writePopulation f pieces) fun r => Calm client r.statements := by
  unfold writePopulation
  refine (writeBuilders_writes hchecked.builders).bind fun builders hbuilders => ?_
  refine (writeMethod_calm client f.httpMethod.method).bind fun method hmethod => ?_
  refine (writeUrl_calm client pieces hchecked.roles).bind fun url hurl => ?_
  refine (writeHeaders_calm client f).bind fun headers hheaders => ?_
  refine (writeCookies_calm client f).bind fun cookies hcookies => ?_
  refine (writeBody_calm client f).bind fun body hbody => ?_
  refine (writeTags_writes hchecked.roles).bind fun tags htags => .pure ?_
  have hbuilders : Calm client builders := calm_of_forall₂ hbuilders fun _ _ h => h.calm
  exact (((((hbuilders.append hmethod).append hurl).append hheaders).append hcookies).append
    hbody).append htags.calm

end Sections

end ClientGen.Request
