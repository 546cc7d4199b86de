/-
  ClientGen/Proofs/Client/Reference.lean
  ======================================
  **What the name of the client denotes.**

  A body writes the name of the client without a qualifier, in front of a request that it
  executes and behind one that it prepares.  Populating a request does not use the client,
  and the blocks around a use bind no name; so what the name denotes is decided by the
  parameters of the function alone.  The name comes from a property of the interface or is
  a fixed word, and no check compares it with the parameters of the functions: it denotes
  the first property of the class exactly when no parameter has it (`client_denoted`), and
  an accepted interface may give it to a parameter (`client_may_be_shadowed`).
-/
import ClientGen.Proofs.Client.Coroutines
import ClientGen.Proofs.Client.ParameterNames
import ClientGen.Proofs.Code.Scoping

namespace ClientGen.Code

/-! ### Uses of the client -/

/-- The client stands behind what the block denotes, as the last argument of a call. -/
def Block.HandsOver (client : String) (b : Block) : Prop :=
  ∃ back, b.closing = ", " ++ (client ++ ")" ++ back)

/-- The name of the client stands in the text around the braces of a block. -/
def Statement.UsesClient (client : String) : Statement → Prop
  | .block b => b.Executes client ∨ b.HandsOver client
  | _ => False

/-- Some statement among these uses the client. -/
def UsesClient (client : String) (ss : List Statement) : Prop :=
  ∃ locals s, StandsWith ss locals s ∧ s.UsesClient client

/-- The statements use the client when they are said to, and where they use it they have bound
    no name. -/
structure UsesFreely (client : String) (used : Prop) (ss : List Statement) : Prop where
  unbound : ∀ locals s, StandsWith ss locals s → s.UsesClient client → locals = []
  uses : UsesClient client ss ↔ used

theorem Block.not_handsOver {client : String} {b : Block} (h : b.closing = "") :
    ¬ b.HandsOver client := by
  rintro ⟨back, hback⟩
  rw [h] at hback
  exact absurd (String.append_eq_empty_iff.mp hback.symm).1 (by decide)

theorem Statement.IsCalm.not_usesClient {client : String} {s : Statement} (h : s.IsCalm client) :
    ¬ s.UsesClient client := by
  cases s with
  | value | expression | returning | raw => exact id
  | block b => exact not_or.mpr ⟨h.request, Block.not_handsOver h.ends⟩

namespace UsesFreely

variable {client : String} {used : Prop} {first : Statement} {ss : List Statement} {b : Block}

theorem of_none (h : ∀ locals s, StandsWith ss locals s → ¬ s.UsesClient client) :
    UsesFreely client False ss where
  unbound := fun locals s hs huses => (h locals s hs huses).elim
  uses := iff_of_false (fun ⟨locals, s, hs, huses⟩ => h locals s hs huses) id

theorem none (h : UsesFreely client False ss) {locals : List String} {s : Statement}
    (hs : StandsWith ss locals s) : ¬ s.UsesClient client :=
  fun huses => h.uses.mp ⟨locals, s, hs, huses⟩

theorem of_calm (h : Calm client ss) : UsesFreely client False ss := by
  refine of_none fun locals s hs => ?_
  obtain ⟨around, hoccurs⟩ := hs.occurs
  exact (h around s hoccurs).not_usesClient

theorem nil : UsesFreely client False [] :=
  of_none fun _ _ hs => (not_standsWith_nil hs).elim

theorem expression (code : String) : UsesFreely client False [.expression code] := by
  refine of_none fun locals s hs => ?_
  rw [eq_expression_of_standsWith hs]
  exact id

/-- Behind a first statement nothing has to be known of the names that it declares, as long as
    nothing there uses the client. -/
theorem cons (h : UsesFreely client used [first]) (h' : UsesFreely client False ss) :
    UsesFreely client used (first :: ss) where
  unbound := by
    intro locals s hs huses
    rcases standsWith_cons.mp hs with hs | ⟨inner, -, behind⟩
    · exact h.unbound locals s hs huses
    · exact (h'.none behind huses).elim
  uses := by
    rw [← h.uses]
    constructor
    · rintro ⟨locals, s, hs, huses⟩
      rcases standsWith_cons.mp hs with hs | ⟨inner, -, behind⟩
      · exact ⟨locals, s, hs, huses⟩
      · exact (h'.none behind huses).elim
    · rintro ⟨locals, s, hs, huses⟩
      exact ⟨locals, s, standsWith_cons.mpr (.inl hs), huses⟩

/-- A block whose body does not use the client uses it when the text around it does. -/
theorem outside (hself : (Statement.block b).UsesClient client ↔ used)
    (hbody : UsesFreely client False b.body) (hbranches : b.branches = []) :
    UsesFreely client used [.block b] := by
  have hblock : ∀ locals s, StandsWith [.block b] locals s → s.UsesClient client →
      locals = [] ∧ s = .block b := by
    intro locals s hs huses
    rcases standsWith_block.mp hs with hs | ⟨inner, -, inside⟩ | ⟨part, hpart, -⟩
    · exact hs
    · exact (hbody.none inside huses).elim
    · rw [hbranches] at hpart
      cases hpart
  constructor
  · exact fun locals s hs huses => (hblock locals s hs huses).1
  · rw [← hself]
    constructor
    · rintro ⟨locals, s, hs, huses⟩
      rwa [(hblock locals s hs huses).2] at huses
    · exact fun huses => ⟨[], .block b, .here, huses⟩

/-- A block that binds no name uses the client when its body does. -/
theorem inside (hself : ¬ (Statement.block b).UsesClient client) (hbinds : b.binds = [])
    (hbody : UsesFreely client used b.body)
    (hbranches : ∀ part ∈ b.branches, UsesFreely client False part.body) :
    UsesFreely client used [.block b] := by
  have hinner : ∀ locals s, StandsWith [.block b] locals s → s.UsesClient client →
      StandsWith b.body locals s := by
    intro locals s hs huses
    rcases standsWith_block.mp hs with
      ⟨-, rfl⟩ | ⟨inner, rfl, inside⟩ | ⟨part, hpart, inner, -, inside⟩
    · exact (hself huses).elim
    · rwa [hbinds, List.append_nil]
    · exact ((hbranches part hpart).none inside huses).elim
  constructor
  · exact fun locals s hs huses => hbody.unbound locals s (hinner locals s hs huses) huses
  · rw [← hbody.uses]
    constructor
    · exact fun ⟨locals, s, hs, huses⟩ => ⟨locals, s, hinner locals s hs huses, huses⟩
    · rintro ⟨locals, s, hs, huses⟩
      have hstands : StandsWith [.block b] (locals ++ b.binds) s := .body hs
      exact ⟨_, s, hstands, huses⟩

end UsesFreely

end ClientGen.Code

namespace ClientGen.Client

open ClientGen.Code ClientGen.Request ClientGen.Text

/-! ### Bodies -/

def BodyPlan.use : BodyPlan → RequestUse
  | .direct use | .captured use | .streamedCapture use => use
  | .streamed response => .execute response

section Bodies

variable {r : RequestParts} {use : RequestUse} {used : Prop} {back : String} {b : Block}

/-- Executing a request uses the client in front of it, and preparing one behind it; describing
    a request does not, when nothing behind it could be taken for an argument. -/
theorem IsRequest.usesClient (h : IsRequest r use back b)
    (hback : use = .describe → back = "" ∨ StartsOtherwise ", " back) :
    (Statement.block b).UsesClient r.client ↔ use ≠ .describe := by
  cases use with
  | execute response => exact iff_of_true (.inl (h.executes.mpr rfl)) nofun
  | prepare =>
    have hclosing : b.closing = ", " ++ (r.client ++ ")" ++ back) := by
      rw [h.closing, callEnd]
      simp only [String.append_assoc]
    exact iff_of_true (.inr ⟨back, hclosing⟩) nofun
  | describe =>
    refine iff_of_false ?_ fun hne => hne rfl
    have hclosing : b.closing = back := h.closing.trans String.empty_append
    have hexecutes : ¬ b.Executes r.client := fun hexecutes => nomatch h.executes.mp hexecutes
    refine not_or.mpr ⟨hexecutes, ?_⟩
    rcases hback rfl with hempty | hback
    · exact Block.not_handsOver (hclosing.trans hempty)
    · rintro ⟨rest, hrest⟩
      exact hback.ne _ (hclosing.symm.trans hrest)

theorem IsRequest.usesFreely (h : IsRequest r use back b) (hcalm : Calm r.client r.population)
    (hback : use = .describe → back = "" ∨ StartsOtherwise ", " back) :
    UsesFreely r.client (use ≠ .describe) [.block b] := by
  rw [← h.body] at hcalm
  exact .outside (h.usesClient hback) (.of_calm hcalm) h.branches

theorem startsOtherwise_passedTo (receiver : String) :
    StartsOtherwise ", " (passedTo receiver) := by
  have hlet : StartsOtherwise ", " ".let \x7b " := by decide
  exact (hlet.append receiver).append _

theorem writeReturned_usesFreely (hcalm : Calm r.client r.population) (use : RequestUse) :
    Writes (writeReturned r use) (UsesFreely r.client (use ≠ .describe)) := by
  refine (writeReturned_writes r use).imp ?_
  rintro _ ⟨back, b, rfl, hb, hback⟩
  exact hb.usesFreely hcalm fun hdescribe => .inl (hback hdescribe)

theorem writePassed_usesFreely (hcalm : Calm r.client r.population) (receiver : String)
    (use : RequestUse) :
    Writes (writePassed r receiver use) (UsesFreely r.client (use ≠ .describe)) := by
  refine (writePassed_writes r receiver use).imp fun ss hpasses => ?_
  cases hpasses with
  | nothing hb => exact (hb.usesFreely hcalm nofun).cons (.expression _)
  | outcome hb hfront =>
    refine hb.usesFreely hcalm fun hdescribe => .inr ?_
    rw [hfront hdescribe, String.empty_append]
    exact startsOtherwise_passedTo receiver

theorem not_usesClient_of_opening {client : String} (h : EndsOtherwise ".request" b.opening)
    (hclosing : b.closing = "") : ¬ (Statement.block b).UsesClient client :=
  not_or.mpr ⟨not_executes_of_opening h, Block.not_handsOver hclosing⟩

/-- A handler that binds nothing in front leaves the name of the client as it was. -/
theorem writeCapture_usesFreely {client opening : String} {guarded : List Statement}
    (hbinds : (Block.plain opening []).binds = []) (hopening : EndsOtherwise ".request" opening)
    (h : UsesFreely client used guarded) (checks : Bool) :
    Writes (writeCapture opening guarded checks) fun s => UsesFreely client used [s] := by
  have hblock : ∀ recovery, UsesFreely client False recovery → UsesFreely client used
      [.block ((Block.plain opening guarded).branch "catch (e: Exception)" recovery)] := by
    intro recovery hrecovery
    refine .inside (not_usesClient_of_opening hopening rfl) hbinds h fun part hpart => ?_
    rwa [List.mem_singleton.mp hpart]
  unfold writeCapture
  cases checks with
  | false => exact .pure (hblock _ (.expression _))
  | true =>
    refine writeCancellationCheck_writes.bind ?_
    rintro _ rfl
    exact .pure (hblock _ ((UsesFreely.expression _).cons (.expression _)))

theorem writeStream_usesFreely {client : String} {body : List Statement}
    (h : UsesFreely client used body) :
    Writes (writeStream body) (UsesFreely client used) := by
  have hopening : EndsOtherwise ".request" "return flow" := by decide
  have hbinds : (Block.plain "return flow" []).binds = [] := by decide
  refine (writeStream_writes body).imp ?_
  rintro _ rfl
  exact .inside (not_usesClient_of_opening hopening rfl) hbinds h nofun

theorem writeBodyPlan_usesFreely (hcalm : Calm r.client r.population) (isSuspend : Bool)
    (plan : BodyPlan) :
    Writes (writeBodyPlan r isSuspend plan) (UsesFreely r.client (plan.use ≠ .describe)) := by
  unfold writeBodyPlan
  cases plan with
  | direct use => exact writeReturned_usesFreely hcalm use
  | captured use =>
    refine (writePassed_usesFreely hcalm successName use).bind fun guarded hguarded => ?_
    exact (writeCapture_usesFreely (by decide) (by decide) hguarded _).bind fun s hs => .pure hs
  | streamed response =>
    exact (writePassed_usesFreely hcalm emitName (.execute response)).bind fun body hbody =>
      writeStream_usesFreely hbody
  | streamedCapture use =>
    refine (writePassed_usesFreely hcalm successName use).bind fun guarded hguarded => ?_
    refine (writeCapture_usesFreely (by decide) (by decide) hguarded true).bind fun s hs => ?_
    exact writeStream_usesFreely (hs.cons (.expression _))

end Bodies

end ClientGen.Client

namespace ClientGen

open ClientGen.Client ClientGen.Code ClientGen.Request

/-! ### Overrides -/

/-- The function is planned, and its request is executed or prepared. -/
def FunctionModel.needsClient (f : FunctionModel) : Bool :=
  match planOverride f with
  | .ok plan => decide (plan.body.use ≠ .describe)
  | .error _ => false

theorem FunctionModel.needsClient_iff {f : FunctionModel} {plan : OverridePlan}
    (hplan : planOverride f = .ok plan) :
    f.needsClient = true ↔ plan.body.use ≠ .describe := by
  rw [FunctionModel.needsClient, hplan]
  exact decide_eq_true_iff

/-- The override has the parameters of the function, and its body uses the client as it is
    planned. -/
structure WritesClient (client : String) (f : FunctionModel) (g : Code.Function) : Prop where
  params : List.Forall₂ (fun p q => q.name = p.name) f.parameters g.params
  body : UsesFreely client (f.needsClient = true) g.body

theorem writeOverrideParam_name (p : ParameterModel) :
    Writes (writeOverrideParam p) fun q => q.name = p.name := by
  unfold writeOverrideParam
  refine (Writes.trivial _).bind fun type _ => ?_
  exact (Writes.trivial _).bind fun annotations _ => .pure rfl

theorem writeOverride_writesClient (m : InterfaceModel) {f : FunctionModel} (hf : f.IsChecked)
    {plan : OverridePlan} (hplan : planOverride f = .ok plan) :
    Writes (writeOverride m f plan) (WritesClient m.clientName f) := by
  have hbody : Writes (writeOverrideBody m f plan)
      (UsesFreely m.clientName (f.needsClient = true)) := by
    rw [FunctionModel.needsClient_iff hplan]
    unfold writeOverrideBody
    refine (writePopulation_calm m.clientName hf plan.path).bind fun population hcalm => ?_
    exact writeBodyPlan_usesFreely (r := ⟨m.clientName, population.statements⟩) hcalm _ _
  unfold writeOverride
  refine (Writes.trivial _).bind fun annotations _ => ?_
  refine (Writes.mapM fun p _ => writeOverrideParam_name p).bind fun params hparams => ?_
  refine (Writes.trivial _).bind fun returnType _ => ?_
  exact hbody.bind fun body hbody => .pure ⟨hparams, hbody⟩

/-- The override uses the client when the function needs it, and wherever it does, the name
    denotes the property that holds the client exactly when no parameter has that name. -/
structure RefersToClient (cls : Code.Class) (holder : Code.Param) (f : FunctionModel)
    (g : Code.Function) : Prop where
  uses : UsesClient holder.name g.body ↔ f.needsClient = true
  denotes : ∀ locals s, StandsWith g.body locals s → s.UsesClient holder.name →
    (g.denotes? cls locals holder.name = some (.property holder)
      ↔ ∀ p ∈ f.parameters, p.name ≠ holder.name)

theorem WritesClient.refersToClient {cls : Code.Class} {holder : Code.Param}
    {others : List Code.Param} {f : FunctionModel} {g : Code.Function}
    (h : WritesClient holder.name f g) (hparams : cls.constructorParams = holder :: others)
    (hproperty : holder.property.isSome = true) : RefersToClient cls holder f g := by
  refine ⟨h.body.uses, fun locals s hs huses => ?_⟩
  rw [h.body.unbound locals s hs huses, Function.denotes?_first hparams hproperty]
  constructor
  · intro hfree p hp
    obtain ⟨q, hq, hname⟩ := exists_mem_of_forall₂ h.params hp
    exact hname ▸ hfree q hq
  · intro hfree q hq
    obtain ⟨p, hp, hname⟩ := exists_mem_of_forall₂ h.params.flip hq
    exact hname ▸ hfree p hp

/-! ### Accepted models -/

/-- The first file holds a class whose first property is the client, and its functions refer to
    it one by one, in a file with these names. -/
def RefersAll (m : InterfaceModel) (files : List SourceFile) : Prop :=
  ∃ main others cls holder rest final, files = main :: others ∧ main.file.classes = [cls]
    ∧ final.package = main.file.package ∧ final.lines = main.file.imports
    ∧ cls.constructorParams = holder :: rest
    ∧ (clientParam m).WrittenAs final holder
    ∧ List.Forall₂ (RefersToClient cls holder) m.generatedFunctions cls.functions

theorem refersAll_of_accepted {m : InterfaceModel} {o : Options}
    {registry registry' : FactoryRegistry} {files : List SourceFile} {log log' : Log}
    (haccepted : Accepted Check.all m o)
    (hrun : (generate m o registry).run.run log = (.ok (files, registry'), log')) :
    RefersAll m files := by
  have hwrites : ∀ x f plan, f = x ∧ f ∈ m.generatedFunctions → planOverride f = .ok plan →
      Lasts (writeOverride m f plan) fun _ => WritesClient m.clientName x := by
    rintro x f plan ⟨rfl, hf⟩ hplan
    refine ⟨writeOverride_grows m f plan, fun names _ _ => ?_⟩
    exact writeOverride_writesClient m (haccepted.function hf) hplan names
  have hfunctions : List.Forall₂ (fun x f => f = x ∧ f ∈ m.generatedFunctions)
      m.generatedFunctions m.generatedFunctions :=
    List.forall₂_same.mpr fun f hf => ⟨rfl, hf⟩
  obtain ⟨main, others, cls, head, final, rfl, hclasses, hpackage, hlines, hparams, -, hhead⟩ :=
    generate_head hrun
  obtain ⟨_, _, _, -, hfiles, hclasses', -, -, -, -, hwritten⟩ :=
    generate_writes m hwrites hfunctions hrun
  cases hfiles
  rw [hclasses] at hclasses'
  cases hclasses'
  obtain ⟨holder, rest, hholder, -, hhead⟩ := List.forall₂_cons_left_iff.mp hhead.params
  have hfirst : cls.constructorParams = holder :: rest := hparams.trans hhead
  have hname : m.clientName = holder.name := hholder.name.symm
  have hproperty : holder.property.isSome = true := by rw [hholder.property]; rfl
  refine ⟨main, others, cls, holder, rest, final, rfl, hclasses, hpackage, hlines, hfirst,
    hholder, hwritten.imp fun f g hfg => ?_⟩
  rw [hname] at hfg
  exact hfg.refersToClient hfirst hproperty

/-- In the generated class of an accepted model the client is the first property, and where an
    override uses it, its name denotes that property exactly when no parameter of the function
    has the name. -/
theorem client_denoted {m m' : InterfaceModel} {o : Options}
    {registry registry' : FactoryRegistry} {files : List SourceFile} {vlog vlog' glog glog' : Log}
    (hvalidate : (validate Check.all m o).run.run vlog = (.ok (some m'), vlog'))
    (hgenerate : (generate m' o registry).run.run glog = (.ok (files, registry'), glog')) :
    RefersAll m' files := by
  obtain ⟨rfl, haccepted⟩ := accepted_of_validate hvalidate
  exact refersAll_of_accepted haccepted hgenerate

def ClassDeclaration.clientAnd (parameter : String) : ClassDeclaration :=
  { ClassDeclaration.holding "Users"
      [.getting "users" [⟨parameter, .named TypeName.string, false, [.named "Query"]⟩]
        (.named TypeName.string)] with
    properties := [⟨"client", .named TypeName.httpClient, false, []⟩] }

def InterfaceModel.clientAnd (parameter : String) : InterfaceModel :=
  (ClassDeclaration.clientAnd parameter).resolvedModel [] ⟨"Users.kt", []⟩

theorem RefersAll.of_singleton {m : InterfaceModel} {files : List SourceFile} {f : FunctionModel}
    (h : RefersAll m files) (hf : m.generatedFunctions = [f]) (hneeds : f.needsClient = true) :
    ∃ main others cls holder rest g, files = main :: others ∧ main.file.classes = [cls]
      ∧ cls.constructorParams = holder :: rest ∧ cls.functions = [g]
      ∧ UsesClient holder.name g.body ∧ ∀ locals s, StandsWith g.body locals s →
        s.UsesClient holder.name → (g.denotes? cls locals holder.name = some (.property holder)
          ↔ ∀ p ∈ f.parameters, p.name ≠ m.clientName) := by
  obtain ⟨main, others, cls, holder, rest, final, hfiles, hclasses, -, -, hparams, hholder,
    hall⟩ := h
  rw [hf] at hall
  obtain ⟨g, hg, hrefers⟩ := eq_singleton_of_forall₂ hall
  have hname : holder.name = m.clientName := hholder.name
  refine ⟨main, others, cls, holder, rest, g, hfiles, hclasses, hparams, hg,
    hrefers.uses.mpr hneeds, ?_⟩
  rw [← hname]
  exact hrefers.denotes

/-- The name of the client denotes it beside a parameter of another name. -/
theorem client_denoted_of_user :
    ∃ files registry' glog', (generate (InterfaceModel.clientAnd "user") .default .empty).run.run
        (.opened "") = (.ok (files, registry'), glog')
      ∧ ∃ main others cls holder rest g, files = main :: others ∧ main.file.classes = [cls]
        ∧ cls.constructorParams = holder :: rest ∧ cls.functions = [g]
        ∧ UsesClient holder.name g.body
        ∧ ∀ locals s, StandsWith g.body locals s → s.UsesClient holder.name →
          g.denotes? cls locals holder.name = some (.property holder) := by
  obtain ⟨-, vlog', files, registry', glog', -, hvalidate, hgenerate⟩ :=
    ClassDeclaration.exists_generated (.clientAnd "user") [] rfl
      (by decide +kernel) (errorsOf_eq_zero.mp (by decide +kernel)) (by decide +kernel)
  have hrefers := client_denoted hvalidate hgenerate
  obtain ⟨main, others, cls, holder, rest, g, hfiles, hclasses, hparams, hg, huses, hdenotes⟩ :=
    hrefers.of_singleton rfl (by decide +kernel)
  refine ⟨files, registry', glog', hgenerate, main, others, cls, holder, rest, g, hfiles, hclasses,
    hparams, hg, huses, fun locals s hs hs' => (hdenotes locals s hs hs').mpr ?_⟩
  decide +kernel

/-- A parameter may have the name of the client, which then denotes the parameter. -/
theorem client_may_be_shadowed :
    ¬ ∀ (c : ClassDeclaration) (factories : List FunctionDeclaration) (m m' : InterfaceModel)
        (o : Options) (registry registry' : FactoryRegistry) (files : List SourceFile)
        (log log' vlog vlog' glog glog' : Log),
      (c.extract factories).run.run log = (.ok (.ready m), log') →
      (validate Check.all m o).run.run vlog = (.ok (some m'), vlog') →
      (generate m' o registry).run.run glog = (.ok (files, registry'), glog') →
        ∃ main others cls holder rest, files = main :: others ∧ main.file.classes = [cls]
          ∧ cls.constructorParams = holder :: rest ∧ ∀ g ∈ cls.functions, ∀ locals s,
            StandsWith g.body locals s → s.UsesClient holder.name →
              g.denotes? cls locals holder.name = some (.property holder) := by
  intro hall
  -- The interface holds its client in a property, and its only function takes a query of that name.
  have haccepted : Accepted Check.all (InterfaceModel.clientAnd "client") .default :=
    errorsOf_eq_zero.mp (by decide +kernel)
  obtain ⟨log', vlog', files, registry', glog', hextract, hvalidate, hgenerate⟩ :=
    ClassDeclaration.exists_generated (.clientAnd "client") [] rfl
      (by decide +kernel) haccepted (by decide +kernel)
  have hrefers := refersAll_of_accepted haccepted hgenerate
  obtain ⟨main, others, cls, holder, rest, g, hfiles, hclasses, hparams, hg, ⟨locals, s, hs, huses⟩,
    hdenotes⟩ := hrefers.of_singleton rfl (by decide +kernel)
  obtain ⟨main', others', cls', holder', rest', hfiles', hclasses', hparams', hdenoted⟩ :=
    hall _ _ _ _ _ _ _ _ _ _ _ _ _ _ hextract hvalidate hgenerate
  rw [hfiles] at hfiles'
  cases hfiles'
  rw [hclasses] at hclasses'
  cases hclasses'
  rw [hparams] at hparams'
  cases hparams'
  rw [hg] at hdenoted
  -- The body uses the client somewhere, and there its name could only be free of the parameter.
  have hfree := (hdenotes locals s hs huses).mp
    (hdenoted g List.mem_cons_self locals s hs huses)
  revert hfree
  decide +kernel

end ClientGen
