/-
  ClientGen/Proofs/Client/Coroutines.lean
  =======================================
  **Generated bodies and coroutines.**

  Executing a request suspends, and so does asking for the running coroutine; a function
  that does not suspend may do either only inside the stream that it returns.  A handler
  around a request must not swallow the cancellation of the coroutine, and a stream must
  not pass a value on where a handler would catch the failures of its collector
  (`CoroutineSafe`).  Which of this a body has to care for follows from its plan; the
  checks see to it that a plan which executes its request outside of a stream belongs to
  a function that suspends.
-/
import ClientGen.Client.Override
import ClientGen.Proofs.Model.Extraction
import ClientGen.Proofs.Request.Calm

namespace ClientGen.Client

open ClientGen.Code ClientGen.Request ClientGen.Text

/-! ### Safe bodies -/

def cancellationCheck : Statement :=
  .expression "currentCoroutineContext().ensureActive()"

def capturedFailure : Statement :=
  .expression "Result.failure(e)"

/-- The handler looks for a cancellation before it captures the failure. -/
def RethrowsCancellation (part : Branch) : Prop :=
  part.label = "catch (e: Exception)" ∧ part.body = [cancellationCheck, capturedFailure]

/-- Whatever suspends stands inside a stream. -/
def SuspendsInFlow (client : String) (ss : List Statement) : Prop :=
  ∀ around s, Occurs ss around s → s.Executes client ∨ s.ReadsContext → ∃ b ∈ around, b.IsFlow

/-- Every handler around a request lets a cancellation through. -/
def KeepsCancellation (client : String) (ss : List Statement) : Prop :=
  ∀ around b inner s, Occurs ss around (.block b) → b.IsTry →
    Occurs b.body inner s → s.Executes client → ∃ part ∈ b.branches, RethrowsCancellation part

/-- The result is passed on by the stream itself, and nothing is passed on inside a handler. -/
def EmitsOutsideTry (ss : List Statement) : Prop :=
  (∃ b, b.IsFlow ∧ Occurs ss [b] (.expression "emit(_result)"))
    ∧ ∀ around s, Occurs ss around s → s.Emits → ∀ b ∈ around, ¬ b.IsTry

/-- The type is a stream of results. -/
def IsFlowOfResult (t : TypeRef) : Prop :=
  t.is TypeName.flow = true ∧ (t.argument? 0).any (fun item => item.is TypeName.result) = true

instance (t : TypeRef) : Decidable (IsFlowOfResult t) :=
  inferInstanceAs (Decidable (_ ∧ _))

/-- The body of a function suspends only where it may, never swallows a cancellation, and
    a stream of results passes none on inside a handler. -/
structure CoroutineSafe (f : FunctionModel) (client : String) (body : List Statement) : Prop where
  suspends : f.isSuspend = false → SuspendsInFlow client body
  cancellable : KeepsCancellation client body
  emits : IsFlowOfResult f.returnType → EmitsOutsideTry body

/-! ### Requests -/

def callEnd (r : RequestParts) : RequestUse → String
  | .prepare => ", " ++ r.client ++ ")"
  | .execute _ | .describe => ""

/-- A block that populates a request, to describe it or to execute it. -/
structure IsRequest (r : RequestParts) (use : RequestUse) (back : String) (b : Block) : Prop where
  body : b.body = r.population
  branches : b.branches = []
  closing : b.closing = callEnd r use ++ back
  executes : b.Executes r.client ↔ use.isDescription = false

section Requests

variable (r : RequestParts) (front back : String)

theorem writeExecuted_writes (response : Option TypeRef) :
    Writes (writeExecuted r front back) (IsRequest r (.execute response) back) := by
  have hname : (splitLast Library.request).map Prod.snd = some "request" := by decide
  refine (Writes.member hname).bind ?_
  rintro _ rfl
  refine .pure ⟨rfl, rfl, String.empty_append.symm, iff_of_true ⟨front, ?_⟩ rfl⟩
  simp only [Block.close, Block.plain, String.append_assoc]
  rfl

theorem writeDescribed_writes :
    Writes (writeDescribed r front back) (IsRequest r .describe back) := by
  refine (Writes.trivial _).bind fun builder _ => .pure ?_
  have happly : EndsOtherwise ".request" "().apply" := by decide
  refine ⟨rfl, rfl, String.empty_append.symm, iff_of_false (not_executes_of_opening ?_) nofun⟩
  exact happly.prepend (front ++ builder)

theorem writePrepared_writes :
    Writes (writePrepared r front back) (IsRequest r .prepare back) := by
  refine (Writes.trivial _).bind fun statement _ => ?_
  refine (Writes.trivial _).bind fun builder _ => .pure ?_
  have happly : EndsOtherwise ".request" "().apply" := by decide
  refine ⟨rfl, rfl, rfl, iff_of_false (not_executes_of_opening ?_) nofun⟩
  exact happly.prepend (front ++ statement ++ "(" ++ builder)

theorem writeReturned_writes (use : RequestUse) :
    Writes (writeReturned r use) fun ss => ∃ back b, ss = [.block b] ∧ IsRequest r use back b
      ∧ (use = .describe → back = "") := by
  unfold writeReturned
  cases use with
  | execute response =>
    cases response with
    | none => exact (writeExecuted_writes r _ _ none).bind fun b hb => .pure ⟨_, b, rfl, hb, nofun⟩
    | some t =>
      refine (Writes.trivial _).bind fun response _ => ?_
      exact (writeExecuted_writes r _ _ (some t)).bind fun b hb => .pure ⟨_, b, rfl, hb, nofun⟩
  | describe =>
    exact (writeDescribed_writes r _ _).bind fun b hb => .pure ⟨_, b, rfl, hb, fun _ => rfl⟩
  | prepare => exact (writePrepared_writes r _ _).bind fun b hb => .pure ⟨_, b, rfl, hb, nofun⟩

/-- The outcome of a request is passed to a function: behind the block, or in a call of its own
    when there is nothing to read. -/
inductive Passes (receiver : String) : RequestUse → List Statement → Prop
  | nothing {b : Block} (hb : IsRequest r (.execute none) "" b) :
      Passes receiver (.execute none) [.block b, .expression (receiver ++ "(Unit)")]
  | outcome {use : RequestUse} {front : String} {b : Block}
      (hb : IsRequest r use (front ++ passedTo receiver) b)
      (hfront : use = .describe → front = "") :
      Passes receiver use [.block b]

theorem writePassed_writes (receiver : String) (use : RequestUse) :
    Writes (writePassed r receiver use) (Passes r receiver use) := by
  unfold writePassed
  cases use with
  | execute response =>
    cases response with
    | none => exact (writeExecuted_writes r _ _ none).bind fun b hb => .pure (.nothing hb)
    | some t =>
      refine (Writes.trivial _).bind fun response _ => ?_
      exact (writeExecuted_writes r _ _ (some t)).bind fun b hb => .pure (.outcome hb nofun)
  | describe =>
    refine (writeDescribed_writes r _ _).bind fun b hb => ?_
    rw [← String.empty_append (s := passedTo receiver)] at hb
    exact .pure (.outcome hb fun _ => rfl)
  | prepare =>
    refine (writePrepared_writes r _ _).bind fun b hb => ?_
    rw [← String.empty_append (s := passedTo receiver)] at hb
    exact .pure (.outcome hb fun _ => rfl)

end Requests

/-! ### Statements that use a request -/

/-- Nothing asks for the running coroutine, and the request is executed in front, by a use
    that executes it. -/
structure UsesRequest (client : String) (use : RequestUse) (ss : List Statement) : Prop where
  executes : ∀ around s, Occurs ss around s → s.Executes client →
    around = [] ∧ use.isDescription = false
  context : ∀ around s, Occurs ss around s → ¬ s.ReadsContext

/-- Nothing is passed on. -/
def Silent (ss : List Statement) : Prop :=
  ∀ around s, Occurs ss around s → ¬ s.Emits

section Uses

variable {client back : String} {use : RequestUse} {ss ss' : List Statement} {b : Block}
  {r : RequestParts}

theorem UsesRequest.append (h : UsesRequest client use ss) (h' : UsesRequest client use ss') :
    UsesRequest client use (ss ++ ss') := by
  constructor
  · intro around s hs
    rcases occurs_append.mp hs with hs | hs
    · exact h.executes around s hs
    · exact h'.executes around s hs
  · intro around s hs
    rcases occurs_append.mp hs with hs | hs
    · exact h.context around s hs
    · exact h'.context around s hs

theorem Silent.append (h : Silent ss) (h' : Silent ss') : Silent (ss ++ ss') := by
  intro around s hs
  rcases occurs_append.mp hs with hs | hs
  · exact h around s hs
  · exact h' around s hs

/-- No block stands around the request, so none of them guards it. -/
theorem UsesRequest.unguarded (h : UsesRequest client use ss) {around inner : List Block}
    {s : Statement} (hb : Occurs ss around (.block b)) (inside : Occurs b.body inner s) :
    ¬ s.Executes client := by
  intro hexecutes
  have haround := (h.executes _ s (hb.trans inside) hexecutes).1
  simp at haround

theorem IsRequest.uses (h : IsRequest r use back b) (hcalm : Calm r.client r.population) :
    UsesRequest r.client use [.block b] := by
  rw [← h.body] at hcalm
  constructor
  · intro around s hs hexecutes
    rcases occurs_block.mp hs with ⟨rfl, rfl⟩ | ⟨inner, -, inside | ⟨part, hpart, -⟩⟩
    · exact ⟨rfl, h.executes.mp hexecutes⟩
    · exact ((hcalm inner s inside).request hexecutes).elim
    · rw [h.branches] at hpart
      cases hpart
  · intro around s hs
    rcases occurs_block.mp hs with ⟨-, rfl⟩ | ⟨inner, -, inside | ⟨part, hpart, -⟩⟩
    · exact id
    · exact (hcalm inner s inside).context
    · rw [h.branches] at hpart
      cases hpart

theorem IsRequest.silent (h : IsRequest r use back b) (hcalm : Calm client r.population)
    (hback : ∀ front, callEnd r use ++ back ≠ front ++ passedTo emitName) :
    Silent [.block b] := by
  rw [← h.body] at hcalm
  intro around s hs
  rcases occurs_block.mp hs with ⟨-, rfl⟩ | ⟨inner, -, inside | ⟨part, hpart, -⟩⟩
  · rintro ⟨front, hfront⟩
    rw [h.closing] at hfront
    exact hback front hfront
  · exact (hcalm inner s inside).stream
  · rw [h.branches] at hpart
    cases hpart

theorem usesRequest_unit (receiver : String) :
    UsesRequest client use [.expression (receiver ++ "(Unit)")] := by
  have hend : EndsOtherwise "()" "(Unit)" := by decide
  constructor
  · intro around s hs hexecutes
    obtain ⟨-, rfl⟩ := occurs_expression.mp hs
    exact hexecutes.elim
  · intro around s hs
    obtain ⟨-, rfl⟩ := occurs_expression.mp hs
    rintro ⟨member, hmember⟩
    rw [← String.append_assoc] at hmember
    exact (hend.prepend receiver).ne _ hmember

theorem silent_expression {code : String} (h : ¬ (Statement.expression code).Emits) :
    Silent [.expression code] := by
  intro around s hs
  obtain ⟨-, rfl⟩ := occurs_expression.mp hs
  exact h

theorem writeReturned_uses (hcalm : Calm r.client r.population) (use : RequestUse) :
    Writes (writeReturned r use) (UsesRequest r.client use) := by
  refine (writeReturned_writes r use).imp ?_
  rintro _ ⟨back, b, rfl, hb, -⟩
  exact hb.uses hcalm

theorem writePassed_uses (hcalm : Calm r.client r.population) (receiver : String)
    (use : RequestUse) : Writes (writePassed r receiver use) (UsesRequest r.client use) := by
  refine (writePassed_writes r receiver use).imp fun ss hpasses => ?_
  cases hpasses with
  | nothing hb => exact UsesRequest.append (hb.uses hcalm) (usesRequest_unit receiver)
  | outcome hb hfront => exact hb.uses hcalm

/-- A success is captured and not passed on. -/
theorem writePassed_silent (hcalm : Calm client r.population) (use : RequestUse) :
    Writes (writePassed r successName use) Silent := by
  have hpassed : EndsOtherwise (passedTo emitName) (passedTo successName) := by decide
  refine (writePassed_writes r successName use).imp fun ss hpasses => ?_
  cases hpasses with
  | nothing hb =>
    refine Silent.append (hb.silent hcalm fun front hfront => ?_) (silent_expression ?_)
    · exact absurd (String.append_eq_empty_iff.mp hfront.symm).2 (by decide)
    · rintro (hunit | hresult)
      · exact absurd hunit (by decide)
      · exact absurd hresult (by decide)
  | outcome hb hfront => exact hb.silent hcalm ((hpassed.prepend _).prepend _).ne

theorem UsesRequest.keepsCancellation (h : UsesRequest client use ss) :
    KeepsCancellation client ss := by
  intro around b inner s hb _ inside hexecutes
  exact (h.unguarded hb inside hexecutes).elim

end Uses

/-! ### Handlers -/

/-- The block captures the failures of what it guards, and looks for a cancellation when
    it is asked to. -/
structure Captures (guarded : List Statement) (checks : Bool) (b : Block) : Prop where
  isTry : b.IsTry
  body : b.body = guarded
  branches : b.branches = [⟨"catch (e: Exception)",
    (if checks then [cancellationCheck] else []) ++ [capturedFailure]⟩]
  closing : b.closing = ""

theorem writeCancellationCheck_writes :
    Writes writeCancellationCheck (· = [cancellationCheck]) := by
  have hcontext : (splitLast Library.currentContext).map Prod.snd
      = some "currentCoroutineContext" := by
    decide
  have hactive : (splitLast Library.ensureActive).map Prod.snd = some "ensureActive" := by
    decide
  unfold writeCancellationCheck
  refine (Writes.member hcontext).bind ?_
  rintro _ rfl
  refine (Writes.member hactive).bind ?_
  rintro _ rfl
  exact .pure rfl

theorem writeCapture_writes {opening : String} (h : ∃ front, opening = front ++ "try")
    (guarded : List Statement) (checks : Bool) :
    Writes (writeCapture opening guarded checks) fun s =>
      ∃ b, s = .block b ∧ Captures guarded checks b := by
  unfold writeCapture
  cases checks with
  | false => exact .pure ⟨_, rfl, h, rfl, rfl, rfl⟩
  | true =>
    refine writeCancellationCheck_writes.bind ?_
    rintro _ rfl
    exact .pure ⟨_, rfl, h, rfl, rfl, rfl⟩

section Captures

variable {client : String} {use : RequestUse} {guarded : List Statement} {checks : Bool}
  {b : Block} {around : List Block} {s : Statement}

/-- What stands in a block that captures failures is guarded, looks for a cancellation or
    is the captured failure. -/
theorem Captures.occurs (h : Captures guarded checks b) (hs : Occurs [.block b] around s) :
    (around = [] ∧ s = .block b) ∨ ∃ inner, around = b :: inner
      ∧ (Occurs guarded inner s ∨ (checks = true ∧ s = cancellationCheck) ∨ s = capturedFailure) := by
  rcases occurs_block.mp hs with hs | ⟨inner, rfl, inside | ⟨part, hpart, inside⟩⟩
  · exact .inl hs
  · rw [h.body] at inside
    exact .inr ⟨inner, rfl, .inl inside⟩
  · rw [h.branches] at hpart
    cases List.mem_singleton.mp hpart
    rcases occurs_append.mp inside with inside | inside
    · cases checks with
      | false => exact (not_occurs_nil inside).elim
      | true => exact .inr ⟨inner, rfl, .inr (.inl ⟨rfl, (occurs_expression.mp inside).2⟩)⟩
    · exact .inr ⟨inner, rfl, .inr (.inr (occurs_expression.mp inside).2)⟩

theorem Captures.not_executes (h : Captures guarded checks b) : ¬ b.Executes client := by
  obtain ⟨front, hfront⟩ := h.isTry
  have htry : EndsOtherwise ".request" "try" := by decide
  apply not_executes_of_opening
  rw [hfront]
  exact htry.prepend front

theorem Captures.isDescription (h : Captures guarded checks b)
    (huses : UsesRequest client use guarded) (hs : Occurs [.block b] around s)
    (hexecutes : s.Executes client) : use.isDescription = false := by
  rcases h.occurs hs with ⟨-, rfl⟩ | ⟨inner, -, inside | ⟨-, rfl⟩ | rfl⟩
  · exact (h.not_executes hexecutes).elim
  · exact (huses.executes inner s inside hexecutes).2
  · exact hexecutes.elim
  · exact hexecutes.elim

theorem Captures.context (h : Captures guarded checks b) (huses : UsesRequest client use guarded)
    (hs : Occurs [.block b] around s) (hcontext : s.ReadsContext) : checks = true := by
  rcases h.occurs hs with ⟨-, rfl⟩ | ⟨inner, -, inside | ⟨hchecks, -⟩ | rfl⟩
  · exact hcontext.elim
  · exact (huses.context inner s inside hcontext).elim
  · exact hchecks
  · obtain ⟨member, hmember⟩ := hcontext
    have hfailure : StartsOtherwise "currentCoroutineContext()." "Result.failure(e)" := by
      decide
    exact (hfailure.ne _ hmember).elim

theorem Captures.keepsCancellation (h : Captures guarded checks b)
    (huses : UsesRequest client use guarded) (hchecks : use.isDescription = false → checks = true) :
    KeepsCancellation client [.block b] := by
  intro around b' inner s hb' htry inside hexecutes
  rcases h.occurs hb' with ⟨-, heq⟩ | ⟨inner', -, hguarded | ⟨-, heq⟩ | heq⟩
  · cases heq
    rw [h.body] at inside
    have hchecked := hchecks (huses.executes inner s inside hexecutes).2
    refine ⟨_, by rw [h.branches]; exact List.mem_singleton_self _, rfl, ?_⟩
    rw [hchecked]
    rfl
  · exact (huses.unguarded hguarded inside hexecutes).elim
  · cases heq
  · cases heq

theorem Captures.silent (h : Captures guarded checks b) (hguarded : Silent guarded) :
    Silent [.block b] := by
  intro around s hs
  rcases h.occurs hs with ⟨-, rfl⟩ | ⟨inner, -, inside | ⟨-, rfl⟩ | rfl⟩
  · rintro ⟨front, hfront⟩
    rw [h.closing] at hfront
    exact absurd (String.append_eq_empty_iff.mp hfront.symm).2 (by decide)
  · exact hguarded inner s inside
  · rintro (hunit | hresult)
    · exact absurd hunit (by decide)
    · exact absurd hresult (by decide)
  · rintro (hunit | hresult)
    · exact absurd hunit (by decide)
    · exact absurd hresult (by decide)

end Captures

/-! ### Streams -/

section Streams

variable {client : String} {body ss ss' : List Statement} {b : Block}

theorem writeStream_writes (body : List Statement) :
    Writes (writeStream body) (· = [.block (.plain "return flow" body)]) := by
  have hflow : (splitLast Library.flow).map Prod.snd = some "flow" := by decide
  refine (Writes.member hflow).bind ?_
  rintro _ rfl
  exact .pure rfl

theorem isFlow_plain (body : List Statement) : (Block.plain "return flow" body).IsFlow := rfl

theorem not_isTry_of_isFlow (h : b.IsFlow) : ¬ b.IsTry := by
  have hflow : EndsOtherwise "try" "return flow" := by decide
  rintro ⟨front, hfront⟩
  rw [h] at hfront
  exact hflow.ne front hfront

theorem not_executes_of_isFlow (h : b.IsFlow) : ¬ b.Executes client := by
  have hflow : EndsOtherwise ".request" "return flow" := by decide
  rw [← h] at hflow
  exact not_executes_of_opening hflow

theorem suspendsInFlow_stream : SuspendsInFlow client [.block (.plain "return flow" body)] := by
  intro around s hs hsuspends
  rcases occurs_plain.mp hs with ⟨-, rfl⟩ | ⟨inner, rfl, -⟩
  · rcases hsuspends with hexecutes | hcontext
    · exact (not_executes_of_isFlow (isFlow_plain body) hexecutes).elim
    · exact hcontext.elim
  · exact ⟨_, List.mem_cons_self, isFlow_plain body⟩

theorem KeepsCancellation.stream (h : KeepsCancellation client body) :
    KeepsCancellation client [.block (.plain "return flow" body)] := by
  intro around b inner s hb htry inside hexecutes
  rcases occurs_plain.mp hb with ⟨-, heq⟩ | ⟨inner', -, hb⟩
  · cases heq
    exact (not_isTry_of_isFlow (isFlow_plain body) htry).elim
  · exact h inner' b inner s hb htry inside hexecutes

theorem KeepsCancellation.append (h : KeepsCancellation client ss)
    (h' : KeepsCancellation client ss') : KeepsCancellation client (ss ++ ss') := by
  intro around b inner s hb htry inside hexecutes
  rcases occurs_append.mp hb with hb | hb
  · exact h around b inner s hb htry inside hexecutes
  · exact h' around b inner s hb htry inside hexecutes

theorem keepsCancellation_expression (code : String) :
    KeepsCancellation client [.expression code] := by
  intro around b inner s hb
  cases (occurs_expression.mp hb).2

/-- A stream of a silent statement and a value passes on that value only. -/
theorem emitsOutsideTry_stream (h : Silent ss) :
    EmitsOutsideTry [.block (.plain "return flow" (ss ++ [.expression "emit(_result)"]))] := by
  constructor
  · refine ⟨_, isFlow_plain _, .body List.mem_cons_self (.here ?_)⟩
    exact List.mem_append_right _ List.mem_cons_self
  · intro around s hs hemits b hb
    rcases occurs_plain.mp hs with ⟨rfl, -⟩ | ⟨inner, rfl, inside⟩
    · cases hb
    · rcases occurs_append.mp inside with inside | inside
      · exact (h inner s inside hemits).elim
      · obtain ⟨rfl, -⟩ := occurs_expression.mp inside
        cases List.mem_singleton.mp hb
        exact not_isTry_of_isFlow (isFlow_plain _)

end Streams

/-! ### Plans -/

def BodyPlan.suspends : BodyPlan → Bool
  | .direct use | .captured use => !use.isDescription
  | .streamed _ | .streamedCapture _ => false

theorem suspends_of_leaf {kind : ReturnKind} {use : RequestUse}
    (h : RequestUse.of? kind = some use) :
    kind.isNonSuspending = use.isDescription
      ∧ (ReturnKind.result kind).isNonSuspending = use.isDescription := by
  cases kind with
  | unit | plain | builder | statement => cases h; exact ⟨rfl, rfl⟩
  | result | flow | unsupported => cases h

/-- A kind of return type tells whether the plan for it suspends. -/
theorem isNonSuspending_eq {kind : ReturnKind} {plan : BodyPlan}
    (h : BodyPlan.of? kind = some plan) : kind.isNonSuspending = !plan.suspends := by
  cases kind with
  | unit | plain | builder | statement => cases h; rfl
  | unsupported => cases h
  | result inner =>
    obtain ⟨use, huse, rfl⟩ := Option.map_eq_some_iff.mp h
    rw [(suspends_of_leaf huse).2, BodyPlan.suspends, Bool.not_not]
  | flow inner =>
    cases inner with
    | unit | plain => cases h; rfl
    | result inner => obtain ⟨use, -, rfl⟩ := Option.map_eq_some_iff.mp h; rfl
    | flow | builder | statement | unsupported => cases h

theorem plan_of_flowOfResult {t : TypeRef} {plan : BodyPlan} (ht : IsFlowOfResult t)
    (h : BodyPlan.of? (ReturnKind.classify t) = some plan) : ∃ use, plan = .streamedCapture use := by
  obtain ⟨hflow, hany⟩ := ht
  cases hitem : t.argument? 0 with
  | none =>
    rw [hitem] at hany
    cases hany
  | some item =>
    rw [hitem] at hany
    have hresult : item.is TypeName.result = true := hany
    simp only [ReturnKind.classify, hflow, hitem, ReturnKind.ofFlow, hresult, if_true] at h
    cases hinner : item.argument? 0 with
    | none =>
      rw [hinner] at h
      cases h
    | some inner =>
      rw [hinner] at h
      obtain ⟨use, -, rfl⟩ := Option.map_eq_some_iff.mp h
      exact ⟨use, rfl⟩

/-! ### Whole bodies -/

section Plans

variable {f : FunctionModel} {r : RequestParts}

theorem UsesRequest.coroutineSafe {use : RequestUse} {ss : List Statement}
    (h : UsesRequest r.client use ss) (hsuspend : f.isSuspend = true ∨ use.isDescription = true)
    (htype : ¬ IsFlowOfResult f.returnType) : CoroutineSafe f r.client ss where
  suspends := by
    intro hplain around s hs hsuspends
    rcases hsuspends with hexecutes | hcontext
    · have hdescription := (h.executes around s hs hexecutes).2
      simp [hplain, hdescription] at hsuspend
    · exact (h.context around s hs hcontext).elim
  cancellable := h.keepsCancellation
  emits := fun h => (htype h).elim

theorem writeCaptured_safe {use : RequestUse} (hcalm : Calm r.client r.population)
    (hsuspend : f.isSuspend = true ∨ use.isDescription = true)
    (htype : ¬ IsFlowOfResult f.returnType) :
    Writes (writeBodyPlan r f.isSuspend (.captured use)) (CoroutineSafe f r.client) := by
  have htry : ∃ front, "return try" = front ++ "try" := ⟨"return ", by decide⟩
  refine (writePassed_uses hcalm successName use).bind fun guarded huses => ?_
  refine (writeCapture_writes htry guarded _).bind ?_
  rintro _ ⟨b, rfl, hcaptures⟩
  apply Writes.pure
  constructor
  · intro hplain around s hs hsuspends
    rcases hsuspends with hexecutes | hcontext
    · have hdescription := hcaptures.isDescription huses hs hexecutes
      simp [hplain, hdescription] at hsuspend
    · have hchecks := hcaptures.context huses hs hcontext
      simp [hplain] at hchecks
  · refine hcaptures.keepsCancellation huses fun hdescription => ?_
    rcases hsuspend with hsuspend | hnone
    · rw [hsuspend, hdescription]
      rfl
    · rw [hdescription] at hnone
      cases hnone
  · exact fun h => (htype h).elim

theorem writeStreamed_safe {response : Option TypeRef} (hcalm : Calm r.client r.population)
    (htype : ¬ IsFlowOfResult f.returnType) :
    Writes (writeBodyPlan r f.isSuspend (.streamed response)) (CoroutineSafe f r.client) := by
  refine (writePassed_uses hcalm emitName (.execute response)).bind fun body huses => ?_
  refine (writeStream_writes body).imp ?_
  rintro _ rfl
  constructor
  · exact fun _ => suspendsInFlow_stream
  · exact huses.keepsCancellation.stream
  · exact fun h => (htype h).elim

theorem writeStreamedCapture_safe {use : RequestUse} (hcalm : Calm r.client r.population) :
    Writes (writeBodyPlan r f.isSuspend (.streamedCapture use)) (CoroutineSafe f r.client) := by
  have htry : ∃ front, "val " ++ resultName ++ " = try" = front ++ "try" :=
    ⟨"val " ++ resultName ++ " = ", by decide⟩
  have hguarded : Writes (writePassed r successName use) fun guarded =>
      UsesRequest r.client use guarded ∧ Silent guarded :=
    fun names => ⟨writePassed_uses hcalm successName use names, writePassed_silent hcalm use names⟩
  have hemit : emitName ++ "(" ++ resultName ++ ")" = "emit(_result)" := by decide
  unfold writeBodyPlan
  refine hguarded.bind fun guarded ⟨huses, hsilent⟩ => ?_
  refine (writeCapture_writes htry guarded true).bind ?_
  rintro _ ⟨b, rfl, hcaptures⟩
  refine (writeStream_writes _).imp ?_
  rintro _ rfl
  rw [hemit]
  constructor
  · exact fun _ => suspendsInFlow_stream
  · have hkept : KeepsCancellation r.client [.block b] :=
      hcaptures.keepsCancellation huses fun _ => rfl
    exact (hkept.append (keepsCancellation_expression _)).stream
  · exact fun _ => emitsOutsideTry_stream (hcaptures.silent hsilent)

/-- The body of a planned function is safe when the function suspends or its plan does not. -/
theorem writeBodyPlan_safe {plan : BodyPlan}
    (hplan : BodyPlan.of? (ReturnKind.classify f.returnType) = some plan)
    (hsuspend : f.isSuspend = true ∨ (ReturnKind.classify f.returnType).isNonSuspending = true)
    (hcalm : Calm r.client r.population) :
    Writes (writeBodyPlan r f.isSuspend plan) (CoroutineSafe f r.client) := by
  rw [isNonSuspending_eq hplan] at hsuspend
  have htype : (∀ use, plan ≠ .streamedCapture use) → ¬ IsFlowOfResult f.returnType := by
    intro hne ht
    obtain ⟨use, rfl⟩ := plan_of_flowOfResult ht hplan
    exact hne use rfl
  cases plan with
  | direct use =>
    rw [BodyPlan.suspends, Bool.not_not] at hsuspend
    refine (writeReturned_uses hcalm use).imp fun ss huses => ?_
    exact huses.coroutineSafe hsuspend (htype nofun)
  | captured use =>
    rw [BodyPlan.suspends, Bool.not_not] at hsuspend
    exact writeCaptured_safe hcalm hsuspend (htype nofun)
  | streamed response => exact writeStreamed_safe hcalm (htype nofun)
  | streamedCapture use => exact writeStreamedCapture_safe hcalm

end Plans

/-! ### Accepted models -/

theorem suspends_of_accepted {m : InterfaceModel} {o : Options} {f : FunctionModel}
    (h : Accepted Check.all m o) (hf : f ∈ m.generatedFunctions) :
    f.isSuspend = true ∨ f.returnKind.isNonSuspending = true := by
  have htypes : errorsIn (Validation.returnTypes ⟨m, o⟩) = 0 := h .returnTypes (by decide)
  rw [Validation.returnTypes, errorsIn_flatMap_eq_zero] at htypes
  have hsuspend := htypes f hf
  rw [errorsIn_error, Bool.and_eq_false_iff] at hsuspend
  simpa using hsuspend

theorem plan_body {f : FunctionModel} {plan : OverridePlan} (h : planOverride f = .ok plan) :
    BodyPlan.of? f.returnKind = some plan.body := by
  unfold planOverride at h
  split at h
  · cases h
  · split at h
    · rename_i hbody
      cases h
      exact hbody
    · cases h

/-- Every body that is written for an accepted model is safe. -/
theorem body_coroutineSafe {m m' : InterfaceModel} {o : Options} {log log' : Log}
    (hm : m.IsExtracted) (hvalidate : (validate Check.all m o).run.run log = (.ok (some m'), log'))
    {f : FunctionModel} (hf : f ∈ m'.generatedFunctions) {plan : OverridePlan}
    (hplan : planOverride f = .ok plan) (names : ImportTable) :
    CoroutineSafe f m'.clientName ((writeOverrideBody m' f plan).run names).1 := by
  obtain ⟨rfl, haccepted⟩ := accepted_of_validate hvalidate
  have hread := hm.isRead (List.mem_filter.mp hf).1
  have hbody := plan_body hplan
  have hsuspend := suspends_of_accepted haccepted hf
  rw [hread.returnKind] at hbody hsuspend
  have hwrites : Writes (writeOverrideBody m' f plan) (CoroutineSafe f m'.clientName) := by
    unfold writeOverrideBody
    refine (writePopulation_calm m'.clientName (haccepted.function hf) plan.path).bind ?_
    intro population hcalm
    exact writeBodyPlan_safe (r := ⟨m'.clientName, population.statements⟩) hbody hsuspend hcalm
  exact hwrites names

/-- An interface with a stream of results, and a function that captures its failures. -/
def InterfaceModel.ofWatches : InterfaceModel :=
  .holding "Watches" [
    { FunctionDeclaration.getting "all" [] ⟨TypeName.flow, false,
        [.type ⟨TypeName.result, false, [.type (.named "kotlin.String")], true, false, none⟩],
        true, false, none⟩ with
      name := "watch", modifiers := [.abstractMember] },
    .getting "one" [] ⟨TypeName.result, false, [.type (.named "kotlin.String")], true, false, none⟩]

theorem body_coroutineSafe_of_watches :
    ∃ f ∈ InterfaceModel.ofWatches.generatedFunctions, f.isSuspend = false
      ∧ IsFlowOfResult f.returnType ∧ ∃ plan, planOverride f = .ok plan ∧ ∀ names,
        CoroutineSafe f "_httpClient"
          ((writeOverrideBody InterfaceModel.ofWatches f plan).run names).1 := by
  have hm : InterfaceModel.ofWatches.IsExtracted :=
    InterfaceModel.holding_isExtracted (by decide +kernel)
  have haccepted : Accepted Check.all InterfaceModel.ofWatches .default :=
    errorsOf_eq_zero.mp (by decide +kernel)
  obtain ⟨log', hvalidate⟩ := validate_of_accepted rfl haccepted (.opened "")
  have hwatch : (InterfaceModel.ofWatches.generatedFunctions.any fun f =>
      !f.isSuspend && decide (IsFlowOfResult f.returnType) && (planOverride f).isOk) = true := by
    decide +kernel
  obtain ⟨f, hf, hwatch⟩ := List.any_eq_true.mp hwatch
  simp only [Bool.and_eq_true, Bool.not_eq_true', decide_eq_true_eq] at hwatch
  obtain ⟨⟨hplain, htype⟩, hplan⟩ := hwatch
  cases hok : planOverride f with
  | error e =>
    rw [hok] at hplan
    cases hplan
  | ok plan => exact ⟨f, hf, hplain, htype, plan, hok, body_coroutineSafe hm hvalidate hf hok⟩

end ClientGen.Client
