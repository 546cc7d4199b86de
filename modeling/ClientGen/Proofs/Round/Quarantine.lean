/-
  ClientGen/Proofs/Round/Quarantine.lean
  ======================================
  **A bad interface drops only itself.**

  The candidates of a round share a log and a registry of factories.  The result of
  judging one does not depend on the log (`judge_steady`).  What judging can do is said
  once (`judge_cases`): a candidate that is dropped or skipped leaves the registry as it
  was, and so the round without it judges the others as before, by induction on what
  stands in front of it.
-/
import ClientGen.Proofs.Client.Generation
import ClientGen.Round.Processor

namespace ClientGen

open ClientGen.Client

/-! ### One candidate -/

namespace RoundRules

variable {r : RoundRules} {t t' : SymbolTable} {registry registry' : FactoryRegistry}
  {c : Candidate} {v : Verdict} {log log' : Log}

theorem generateFiles_steady (r : RoundRules) (registry : FactoryRegistry) (m : InterfaceModel) :
    Steady (r.generateFiles registry m) := by
  unfold generateFiles
  cases r.mode with
  | check => exact .of _ (Does.pure _)
  | generate =>
    exact (generate_steady m r.options registry).bind fun result => .of _ (Does.pure _)

theorem judgeExtraction_steady (r : RoundRules) (registry : FactoryRegistry) (c : Candidate)
    (e : Extraction) : Steady (r.judgeExtraction registry c e) := by
  cases e with
  | ready m =>
    refine Steady.bind (.of _ (validate_does r.checks m r.options)) fun accepted => ?_
    cases accepted with
    | none => exact .of _ (Does.pure _)
    | some m => exact r.generateFiles_steady registry m
  | deferred names =>
    simp only [judgeExtraction, judgeUnresolved]
    split
    · exact .of _ (Does.die _ _)
    · exact .of _ (Does.pure _)
  | rejected => exact .of _ (Does.pure _)
  | skipped => exact .of _ (Does.pure _)

theorem judge_steady (r : RoundRules) (t : SymbolTable) (registry : FactoryRegistry)
    (c : Candidate) : Steady (r.judge t registry c) := by
  apply Steady.task
  refine Steady.bind (.of _ (c.declaration.extract_does _)) fun e => ?_
  exact r.judgeExtraction_steady registry c e

/-- Of the table, only the functions matter to a candidate. -/
theorem judge_table (h : t.functions = t'.functions) :
    r.judge t registry c = r.judge t' registry c := by
  unfold judge SymbolTable.factoriesOf
  rw [h]

/-- The candidate is extracted with this model, and the checks accept it. -/
structure Accepts (r : RoundRules) (t : SymbolTable) (c : Candidate) (m : InterfaceModel) :
    Prop where
  extracted : Yields (c.declaration.extract (t.factoriesOf c.name)) (.ready m)
  validated : Yields (validate r.checks m r.options) (some m)

theorem Accepts.judge {m : InterfaceModel} {judged : Judged} (h : r.Accepts t c m)
    (hfiles : Yields (r.generateFiles registry m) judged) :
    Yields (r.judge t registry c) judged :=
  (h.extracted.bind (h.validated.bind hfiles)).task _

theorem generateFiles_valid {m : InterfaceModel}
    (h : (r.generateFiles registry m).run.run log = (.ok (v, registry'), log')) :
    ∃ files, v = .valid files := by
  simp only [generateFiles] at h
  cases hmode : r.mode with
  | check =>
    rw [hmode] at h
    cases h
    exact ⟨[], rfl⟩
  | generate =>
    rw [hmode] at h
    obtain ⟨⟨files, after⟩, generated, -, h⟩ := StepM.ok_of_bind h
    cases h
    exact ⟨files, rfl⟩

/-- A candidate that is judged is accepted and its files are written, or it registers
    nothing and is judged so in every registry. -/
theorem judge_cases (h : (r.judge t registry c).run.run log = (.ok (v, registry'), log')) :
    (∃ m before after, r.Accepts t c m
        ∧ (r.generateFiles registry m).run.run before = (.ok (v, registry'), after)
        ∧ after.records = log'.records)
      ∨ (registry' = registry ∧ (∀ files, v ≠ .valid files)
        ∧ (v = .deferred → c.deferrals + 1 ≤ r.options.maxDeferredRounds)
        ∧ ∀ other : FactoryRegistry, Yields (r.judge t other c) (v, other)) := by
  obtain ⟨inner, hrecords, h⟩ := StepM.ok_of_task_records h
  obtain ⟨e, between, hextract, h⟩ := StepM.ok_of_bind h
  have hextracted : Yields (c.declaration.extract (t.factoriesOf c.name)) e :=
    Steady.yields ⟨_, c.declaration.extract_does _⟩ hextract
  -- The extraction is the same in every registry, so only what follows it matters.
  have hrest : ∀ (other : FactoryRegistry) (judged : Judged),
      Yields (r.judgeExtraction other c e) judged → Yields (r.judge t other c) judged :=
    fun other judged hjudged => (hextracted.bind hjudged).task _
  cases e with
  | ready m =>
    obtain ⟨accepted, checked, hvalidate, hfiles⟩ := StepM.ok_of_bind h
    have hvalidated : Yields (validate r.checks m r.options) accepted :=
      Steady.yields ⟨_, validate_does r.checks m r.options⟩ hvalidate
    cases accepted with
    | none =>
      cases hfiles
      refine .inr ⟨rfl, nofun, nofun, fun other => hrest other _ ?_⟩
      exact hvalidated.bind (Yields.pure _)
    | some m' =>
      obtain ⟨rfl, -⟩ := accepted_of_validate hvalidate
      exact .inl ⟨m', checked, inner, ⟨hextracted, hvalidated⟩, hfiles, hrecords⟩
  | deferred names =>
    simp only [judgeExtraction, judgeUnresolved] at h
    by_cases hoften : r.options.maxDeferredRounds < c.deferrals + 1
    · rw [if_pos hoften] at h
      cases h
    · rw [if_neg hoften] at h
      cases h
      refine .inr ⟨rfl, nofun, fun _ => Nat.le_of_not_lt hoften, fun other => hrest other _ ?_⟩
      simp only [judgeExtraction, judgeUnresolved, if_neg hoften]
      exact Yields.pure _
  | rejected =>
    cases h
    exact .inr ⟨rfl, nofun, nofun, fun other => hrest other _ (Yields.pure _)⟩
  | skipped =>
    cases h
    exact .inr ⟨rfl, nofun, nofun, fun other => hrest other _ (Yields.pure _)⟩

/-- Only an accepted candidate registers factories. -/
theorem judge_registry (h : (r.judge t registry c).run.run log = (.ok (v, registry'), log')) :
    (∃ files, v = .valid files) ∨ registry' = registry := by
  rcases judge_cases h with ⟨m, before, after, -, hfiles, -⟩ | ⟨hsame, -⟩
  · exact .inl (generateFiles_valid hfiles)
  · exact .inr hsame

/-! ### All candidates -/

theorem judgeAll_ok (h : (r.judge t registry c).run.run log = (.ok (v, registry'), log'))
    (cs : List Candidate) :
    r.judgeAll t registry (c :: cs) log
      = { r.judgeAll t registry' cs log' with
          judged := ⟨c, v⟩ :: (r.judgeAll t registry' cs log').judged } := by
  rw [judgeAll, h]

theorem judgeAll_error {f : Fatal} (h : (r.judge t registry c).run.run log = (.error f, log'))
    (cs : List Candidate) : r.judgeAll t registry (c :: cs) log = ⟨[], some f, log'⟩ := by
  rw [judgeAll, h]

/-- Judging leaves a log that work could have left. -/
theorem judgeAll_becomes (r : RoundRules) (t : SymbolTable) (registry : FactoryRegistry)
    (cs : List Candidate) (log : Log) : log.Becomes (r.judgeAll t registry cs log).log := by
  induction cs generalizing registry log with
  | nil => exact ⟨[], .inl (Log.after_nil log).symm⟩
  | cons c cs ih =>
    cases hrun : (r.judge t registry c).run.run log with
    | mk result between =>
      cases result with
      | error f =>
        rw [judgeAll_error hrun]
        have hbecomes := (r.judge_steady t registry c).becomes log
        rwa [hrun] at hbecomes
      | ok judged =>
        obtain ⟨hs, rfl⟩ := (r.judge_steady t registry c).after_of_ok hrun
        rw [judgeAll_ok hrun]
        exact .behind (ih judged.2 (log.after hs))

/-- A candidate that is judged in one log is judged alike in any other one. -/
theorem judge_elsewhere (h : t.functions = t'.functions) {result : Except Fatal Judged}
    (hrun : (r.judge t registry c).run.run log = (result, log')) (log₂ : Log) :
    ∃ log₂', (r.judge t' registry c).run.run log₂ = (result, log₂') := by
  have hresult := (r.judge_steady t registry c).result_eq log log₂
  rw [hrun] at hresult
  rw [← judge_table h]
  exact ⟨((r.judge t registry c).run.run log₂).2, Prod.ext hresult.symm rfl⟩

/-- What is judged depends on the candidates and the registry, not on the log. -/
theorem judgeAll_eq (h : t.functions = t'.functions) (registry : FactoryRegistry)
    (cs : List Candidate) (log log' : Log) :
    (r.judgeAll t registry cs log).judged = (r.judgeAll t' registry cs log').judged
      ∧ (r.judgeAll t registry cs log).failure = (r.judgeAll t' registry cs log').failure := by
  induction cs generalizing registry log log' with
  | nil => exact ⟨rfl, rfl⟩
  | cons c cs ih =>
    cases hrun : (r.judge t registry c).run.run log with
    | mk result after =>
      obtain ⟨after', hrun'⟩ := judge_elsewhere h hrun log'
      cases result with
      | error f =>
        rw [judgeAll_error hrun, judgeAll_error hrun']
        exact ⟨rfl, rfl⟩
      | ok judged =>
        obtain ⟨hjudged, hfailure⟩ := ih judged.2 after after'
        rw [judgeAll_ok hrun, judgeAll_ok hrun']
        exact ⟨congrArg (List.cons _) hjudged, hfailure⟩

/-- Without a candidate that registered nothing, the others are judged as before. -/
theorem judgeAll_without (h : t.functions = t'.functions) {j : Judgement}
    {front back : List Candidate} (registry : FactoryRegistry) (log log' : Log)
    (hdone : (r.judgeAll t registry (front ++ c :: back) log).failure = none)
    (hj : (r.judgeAll t registry (front ++ c :: back) log).judged[front.length]? = some j)
    (hv : ∀ files, j.verdict ≠ .valid files) :
    ∃ xs ys, (r.judgeAll t registry (front ++ c :: back) log).judged = xs ++ j :: ys
      ∧ j.candidate = c
      ∧ (r.judgeAll t' registry (front ++ back) log').judged = xs ++ ys
      ∧ (r.judgeAll t' registry (front ++ back) log').failure = none := by
  induction front generalizing registry log log' with
  | nil =>
    rw [List.nil_append] at hdone hj ⊢
    cases hrun : (r.judge t registry c).run.run log with
    | mk result after =>
      cases result with
      | error f => rw [judgeAll_error hrun] at hdone; cases hdone
      | ok judged =>
        obtain ⟨v, registry'⟩ := judged
        rw [judgeAll_ok hrun] at hdone hj ⊢
        simp only [List.length_nil, List.getElem?_cons_zero, Option.some.injEq] at hj
        subst hj
        -- The registry is all that the candidates behind could have seen of this one.
        rcases judge_registry hrun with ⟨files, hvalid⟩ | rfl
        · exact (hv files hvalid).elim
        · obtain ⟨hjudged, hfailure⟩ := judgeAll_eq (r := r) h registry' back after log'
          exact ⟨[], _, rfl, rfl, hjudged.symm, hfailure.symm.trans hdone⟩
  | cons x front ih =>
    rw [List.cons_append] at hdone hj ⊢
    cases hrun : (r.judge t registry x).run.run log with
    | mk result after =>
      obtain ⟨after', hrun'⟩ := judge_elsewhere h hrun log'
      cases result with
      | error f => rw [judgeAll_error hrun] at hdone; cases hdone
      | ok judged =>
        obtain ⟨v, registry'⟩ := judged
        rw [judgeAll_ok hrun] at hdone hj ⊢
        simp only [List.length_cons, List.getElem?_cons_succ] at hj
        obtain ⟨xs, ys, hfull, hc, hless, hfailure⟩ := ih registry' after after' hdone hj
        rw [List.cons_append, judgeAll_ok hrun']
        exact ⟨⟨x, v⟩ :: xs, ys, congrArg (List.cons _) hfull, hc, congrArg (List.cons _) hless,
          hfailure⟩

end RoundRules

/-! ### Rounds -/

theorem roundCandidates_nil (t : SymbolTable) :
    roundCandidates t [] = t.candidates.map fun c => ⟨c, 0⟩ := by
  have hdeclared : ∀ cs : List ClassDeclaration,
      takeDeclared cs [] = (cs.map fun c => ⟨c, 0⟩, []) := by
    intro cs
    induction cs with
    | nil => rfl
    | cons c cs ih => simp only [takeDeclared, Ascending.erase, List.filter_nil, ih]; rfl
  simp only [roundCandidates, hdeclared, List.map_nil, List.append_nil]

theorem pendingAfter_without {xs ys : List Judgement} {j : Judgement}
    (hj : j.verdict ≠ .deferred) : pendingAfter (xs ++ j :: ys) = pendingAfter (xs ++ ys) := by
  unfold pendingAfter
  rw [List.foldl_append, List.foldl_append, List.foldl_cons]
  split
  · rename_i hdeferred
    exact (hj hdeferred).elim
  · rfl

namespace RoundOutput

variable {o o' : RoundOutput} {xs ys : List Judgement} {j : Judgement}

/-- One judgement more adds its own name to the names with its verdict. -/
theorem names_of_selected {select : Verdict → Bool} (h : o.judged = xs ++ j :: ys)
    (h' : o'.judged = xs ++ ys) (hj : select j.verdict = true) :
    ∃ front back, o.names select = front ++ j.candidate.name :: back
      ∧ o'.names select = front ++ back := by
  refine ⟨(xs.filter fun j => select j.verdict).map fun j => j.candidate.name,
    (ys.filter fun j => select j.verdict).map fun j => j.candidate.name, ?_, ?_⟩
  · simp [names, h, hj]
  · simp [names, h']

theorem names_of_not_selected {select : Verdict → Bool} (h : o.judged = xs ++ j :: ys)
    (h' : o'.judged = xs ++ ys) (hj : select j.verdict = false) :
    o.names select = o'.names select := by
  simp [names, h, h', hj]

theorem valid_without (h : o.judged = xs ++ j :: ys) (h' : o'.judged = xs ++ ys)
    (hj : ∀ files, j.verdict ≠ .valid files) : o.valid = o'.valid ∧ o.files = o'.files := by
  cases hv : j.verdict with
  | valid files => exact (hj files hv).elim
  | _ =>
    refine ⟨names_of_not_selected h h' (by rw [hv]), ?_⟩
    simp [files, h, h', hv, filesOf]

theorem deferred_without (h : o.judged = xs ++ j :: ys) (h' : o'.judged = xs ++ ys)
    (hj : j.verdict ≠ .deferred) : o.deferred = o'.deferred := by
  apply names_of_not_selected h h'
  cases hv : j.verdict with
  | deferred => exact (hj hv).elim
  | _ => rfl

end RoundOutput

/-! ### Closing -/

namespace Outcome

variable {α : Type} {result : Except Fatal α} {log : Log}

theorem result_closing (h : log.closeRoot.1 = none) : (closing result log).result = result := by
  rw [closing, h]
  cases result <;> rfl

/-- Work that is the same in every log does not fail by the closing of its log. -/
theorem result_ofWork {work : StepM α} (hwork : Steady work) (name : String) :
    (ofWork name work).result = (work.run.run (.opened name)).1 :=
  result_closing (hwork.becomes (.opened name)).closeRoot

end Outcome

/-! ### Quarantine -/

/-- The second list lacks one entry of the first and nothing else. -/
def OneLess (name : String) (names names' : List String) : Prop :=
  ∃ front back, names = front ++ name :: back ∧ names' = front ++ back

/-- Errors were recorded. -/
def Verdict.isDropped : Verdict → Bool
  | .dropped => true
  | _ => false

namespace Processor

variable {p : Processor} {mode : RoundMode} {t : SymbolTable} {o : RoundOutput}

/-- What a round judges. -/
def judgements (p : Processor) (mode : RoundMode) (t : SymbolTable) : Judgements :=
  (p.rules mode).judgeAll t .empty (roundCandidates t p.pending)
    (.opened (roundName (p.rounds + 1)))

/-- The log of a round can be closed, however the round ends. -/
theorem closeRoot_judgements (p : Processor) (mode : RoundMode) (t : SymbolTable) :
    (p.judgements mode t).log.closeRoot.1 = none :=
  (RoundRules.judgeAll_becomes _ t _ _ _).closeRoot

/-- A round succeeds exactly when nothing failed, and hands out what was judged. -/
theorem run_eq_ok :
    (p.run mode t).1.result = .ok o
      ↔ (p.judgements mode t).failure = none
        ∧ o = ⟨(p.judgements mode t).judged, (p.judgements mode t).log.errorCount,
            (p.judgements mode t).log.warningCount⟩ := by
  change (roundOutcome (p.judgements mode t)).result = .ok o ↔ _
  rw [roundOutcome, Outcome.result_closing (p.closeRoot_judgements mode t)]
  cases (p.judgements mode t).failure with
  | none => simp [eq_comm]
  | some f => simp

theorem run_eq_error {f : Fatal} :
    (p.run mode t).1.result = .error f ↔ (p.judgements mode t).failure = some f := by
  change (roundOutcome (p.judgements mode t)).result = .error f ↔ _
  rw [roundOutcome, Outcome.result_closing (p.closeRoot_judgements mode t)]
  cases (p.judgements mode t).failure with
  | none => simp
  | some f' => simp

/-- The candidates of a table with nothing pending, split at one of them. -/
theorem roundCandidates_split (hp : p.pending = []) (front back : List ClassDeclaration)
    {c : ClassDeclaration} (functions : List FunctionDeclaration) (hc : c.isCandidate = true) :
    ∃ before after : List Candidate,
      before.length = (front.filter ClassDeclaration.isCandidate).length
      ∧ roundCandidates ⟨front ++ c :: back, functions⟩ p.pending = before ++ ⟨c, 0⟩ :: after
      ∧ roundCandidates ⟨front ++ back, functions⟩ p.pending = before ++ after := by
  refine ⟨(front.filter ClassDeclaration.isCandidate).map fun c => ⟨c, 0⟩,
    (back.filter ClassDeclaration.isCandidate).map fun c => ⟨c, 0⟩, List.length_map _, ?_, ?_⟩
  · rw [hp, roundCandidates_nil]
    simp [SymbolTable.candidates, List.filter_append, hc]
  · rw [hp, roundCandidates_nil]
    simp [SymbolTable.candidates, List.filter_append]

/-- The round without a class that registered nothing judges the others as before. -/
theorem run_without (hp : p.pending = []) {front back : List ClassDeclaration}
    {c : ClassDeclaration} {functions : List FunctionDeclaration} (hc : c.isCandidate = true)
    {j : Judgement} (hrun : (p.run mode ⟨front ++ c :: back, functions⟩).1.result = .ok o)
    (hj : o.judged[(front.filter ClassDeclaration.isCandidate).length]? = some j)
    (hv : ∀ files, j.verdict ≠ .valid files) :
    ∃ o' xs ys, (p.run mode ⟨front ++ back, functions⟩).1.result = .ok o'
      ∧ o.judged = xs ++ j :: ys ∧ j.candidate = ⟨c, 0⟩ ∧ o'.judged = xs ++ ys := by
  obtain ⟨before, after, hlength, hfull, hless⟩ :=
    roundCandidates_split hp front back functions hc
  obtain ⟨hdone, rfl⟩ := run_eq_ok.mp hrun
  have htable : (⟨front ++ c :: back, functions⟩ : SymbolTable).functions
      = (⟨front ++ back, functions⟩ : SymbolTable).functions := rfl
  unfold judgements at hdone hj ⊢
  rw [hfull] at hdone hj ⊢
  rw [← hlength] at hj
  obtain ⟨xs, ys, hwith, hcandidate, hwithout, hdone'⟩ :=
    RoundRules.judgeAll_without htable _ _ (.opened (roundName (p.rounds + 1))) hdone hj hv
  rw [← hless] at hwithout hdone'
  exact ⟨_, xs, ys, run_eq_ok.mpr ⟨hdone', rfl⟩, hwith, hcandidate, hwithout⟩

theorem run_after (h : (p.run mode t).1.result = .ok o) :
    (p.run mode t).2 = { p with pending := pendingAfter o.judged, rounds := p.rounds + 1 } := by
  obtain ⟨-, rfl⟩ := run_eq_ok.mp h
  rfl

/-- The round without a class that was dropped or skipped does the same with the others. -/
theorem quarantine (hp : p.pending = []) {front back : List ClassDeclaration}
    {c : ClassDeclaration} {functions : List FunctionDeclaration} (hc : c.isCandidate = true)
    {j : Judgement} (hrun : (p.process ⟨front ++ c :: back, functions⟩).1.result = .ok o)
    (hj : o.judged[(front.filter ClassDeclaration.isCandidate).length]? = some j)
    (hv : j.verdict = .dropped ∨ j.verdict = .skipped) :
    j.candidate.declaration = c
      ∧ ∃ o', (p.process ⟨front ++ back, functions⟩).1.result = .ok o'
        ∧ o'.files = o.files ∧ o'.valid = o.valid ∧ o'.deferred = o.deferred
        ∧ (p.process ⟨front ++ back, functions⟩).2
            = (p.process ⟨front ++ c :: back, functions⟩).2
        ∧ ((j.verdict = .dropped ∧ OneLess c.qualifiedName o.dropped o'.dropped
              ∧ o'.skipped = o.skipped)
          ∨ (j.verdict = .skipped ∧ OneLess c.qualifiedName o.skipped o'.skipped
              ∧ o'.dropped = o.dropped)) := by
  have hquiet : (∀ files, j.verdict ≠ .valid files) ∧ j.verdict ≠ .deferred := by
    constructor
    · intro files h
      rcases hv with hv | hv
      · rw [hv] at h; cases h
      · rw [hv] at h; cases h
    · intro h
      rcases hv with hv | hv
      · rw [hv] at h; cases h
      · rw [hv] at h; cases h
  obtain ⟨o', xs, ys, hrun', hwith, hcandidate, hwithout⟩ := run_without hp hc hrun hj hquiet.1
  obtain ⟨hvalid, hfiles⟩ := RoundOutput.valid_without hwith hwithout hquiet.1
  have hdeferred := RoundOutput.deferred_without hwith hwithout hquiet.2
  have hname : j.candidate.name = c.qualifiedName := by rw [hcandidate]; rfl
  refine ⟨by rw [hcandidate], o', hrun', hfiles.symm, hvalid.symm, hdeferred.symm, ?_, ?_⟩
  · unfold process
    rw [run_after hrun, run_after hrun', hwith, hwithout, pendingAfter_without hquiet.2]
  · rcases hv with hv | hv
    · refine .inl ⟨hv, ?_, (RoundOutput.names_of_not_selected hwith hwithout (by rw [hv])).symm⟩
      rw [← hname]
      exact RoundOutput.names_of_selected hwith hwithout (by rw [hv])
    · refine .inr ⟨hv, ?_, (RoundOutput.names_of_not_selected hwith hwithout (by rw [hv])).symm⟩
      rw [← hname]
      exact RoundOutput.names_of_selected hwith hwithout (by rw [hv])

def unboundInterface : ClassDeclaration :=
  .holding "Broken" [.getting "users/\x7bid\x7d" [] (.named TypeName.string)]

def acceptedInterface : ClassDeclaration :=
  .holding "Users" [.getting "users" [] (.named TypeName.string)]

def waitingInterface : ClassDeclaration :=
  .holding "Waiting" [.getting "users" [] ⟨"User", false, [], false, false, none⟩]

/-- Between an accepted and a waiting interface, the unbound one drops only itself. -/
theorem quarantine_of_unbound :
    ∃ o o' : RoundOutput,
      ((start .default Check.all).process
          ⟨[acceptedInterface] ++ unboundInterface :: [waitingInterface], []⟩).1.result = .ok o
      ∧ ((start .default Check.all).process
          ⟨[acceptedInterface] ++ [waitingInterface], []⟩).1.result = .ok o'
      ∧ o'.files = o.files ∧ o'.valid = o.valid ∧ o'.deferred = o.deferred
      ∧ OneLess "Broken" o.dropped o'.dropped := by
  have hdropped : (((start .default Check.all).process
      ⟨[acceptedInterface] ++ unboundInterface :: [waitingInterface], []⟩).1.result.toOption.any
        fun o => o.judged[1]?.any fun j => j.verdict.isDropped) = true := by
    decide +kernel
  cases hrun : ((start .default Check.all).process
      ⟨[acceptedInterface] ++ unboundInterface :: [waitingInterface], []⟩).1.result with
  | error f => rw [hrun] at hdropped; cases hdropped
  | ok o =>
    rw [hrun] at hdropped
    have hany : (o.judged[1]?.any fun j => j.verdict.isDropped) = true := hdropped
    have hfront : ([acceptedInterface].filter ClassDeclaration.isCandidate).length = 1 := by
      decide +kernel
    obtain ⟨j, hj, hverdict⟩ := (Option.any_eq_true _ _).mp hany
    have hv : j.verdict = .dropped := by
      cases hv : j.verdict with
      | dropped => rfl
      | _ => rw [hv] at hverdict; cases hverdict
    obtain ⟨-, o', hrun', hfiles, hvalid, hdeferred, -, hlists⟩ :=
      quarantine rfl (by decide +kernel) hrun (by rw [hfront]; exact hj) (.inl hv)
    rcases hlists with ⟨-, hless, -⟩ | ⟨hskipped, -, -⟩
    · exact ⟨o, o', rfl, hrun', hfiles, hvalid, hdeferred, hless⟩
    · rw [hv] at hskipped
      cases hskipped

end Processor

end ClientGen
