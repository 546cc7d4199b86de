/-
  ClientGen/Proofs/Round/Accounting.lean
  ======================================
  **Every candidate of a round is accounted for once.**

  The declarations that wait for a later round are a map: the names are in strict order,
  and every name is that of its declaration (`Reachable.keyed`).  The map is emptied
  before a round in two ways, by what the table repeats and by what is left, and both
  together are the candidates (`declarations_roundCandidates`).  A round that succeeds
  judges all of them, and the names that wait afterwards are those of the deferred ones.
-/
import ClientGen.Proofs.Ascending
import ClientGen.Proofs.Round.Quarantine

namespace ClientGen

/-! ### Candidates -/

/-- The names of the candidates of a table. -/
def SymbolTable.candidateNames (t : SymbolTable) : List String :=
  t.candidates.map ClassDeclaration.qualifiedName

/-- The declarations of a table are taken in order, and what stays pending are the names
    that none of them has. -/
theorem takeDeclared_eq (cs : List ClassDeclaration) (pending : Pending) :
    (takeDeclared cs pending).1.map Candidate.declaration = cs
      ∧ (takeDeclared cs pending).2
          = pending.filter fun e => !(cs.map ClassDeclaration.qualifiedName).contains e.1 := by
  induction cs generalizing pending with
  | nil => simp [takeDeclared]
  | cons c cs ih =>
    obtain ⟨hdeclared, hleft⟩ := ih (Ascending.erase c.qualifiedName pending)
    constructor
    · exact congrArg (List.cons c) hdeclared
    · refine hleft.trans ?_
      rw [Ascending.erase, List.filter_filter]
      refine List.filter_congr fun e _ => ?_
      rw [List.map_cons, List.contains_cons, Bool.not_or, bne, Bool.and_comm]

/-- A round looks at the candidates of its table and then at what still waits. -/
theorem declarations_roundCandidates (t : SymbolTable) (pending : Pending) :
    (roundCandidates t pending).map Candidate.declaration
      = t.candidates
        ++ (pending.filter fun e => !t.candidateNames.contains e.1).map fun e => e.2.declaration := by
  obtain ⟨hdeclared, hleft⟩ := takeDeclared_eq t.candidates pending
  simp only [roundCandidates, List.map_append, hdeclared, hleft, List.map_map]
  rfl

/-! ### Pending declarations -/

/-- The names are in strict order, and each is the name of its declaration. -/
structure Pending.Keyed (pending : Pending) : Prop where
  strict : Ascending.Strict (pending.map Prod.fst)
  own : ∀ e ∈ pending, e.2.name = e.1

theorem Pending.Keyed.nil : Pending.Keyed [] where
  strict := List.Pairwise.nil
  own := fun _ h => nomatch h

/-- The names of the judged candidates that are deferred. -/
def deferredNames (judged : List Judgement) : List String :=
  (judged.filter fun j => j.verdict matches .deferred).map fun j => j.candidate.name

/-- The names of the judgements with one verdict. -/
theorem mem_names_iff {judged : List Judgement} (select : Verdict → Bool) {verdict : Verdict}
    (hselect : ∀ v, select v = true ↔ v = verdict) {name : String} :
    name ∈ (judged.filter fun j => select j.verdict).map (fun j => j.candidate.name)
      ↔ ∃ j ∈ judged, j.verdict = verdict ∧ j.candidate.name = name := by
  simp only [List.mem_map, List.mem_filter, and_assoc, hselect]

theorem mem_deferredNames {judged : List Judgement} {name : String} :
    name ∈ deferredNames judged
      ↔ ∃ j ∈ judged, j.verdict = .deferred ∧ j.candidate.name = name := by
  refine mem_names_iff (· matches .deferred) fun v => ?_
  cases v with
  | deferred => simp
  | _ => simp

/-- What a fold over judgements keeps, by induction on what is still to be judged. -/
theorem foldl_pendingAfter (judged : List Judgement) (pending : Pending)
    (hkeyed : ∀ e ∈ pending, e.2.name = e.1) :
    let after := judged.foldl (fun pending j =>
      match j.verdict with
      | .deferred => Ascending.put j.candidate.name j.candidate.defer pending
      | _ => pending) pending
    after.map Prod.fst
        = (deferredNames judged).foldl (fun sorted n => Ascending.putName n sorted)
            (pending.map Prod.fst)
      ∧ ∀ e ∈ after, e.2.name = e.1 := by
  induction judged generalizing pending with
  | nil => exact ⟨rfl, hkeyed⟩
  | cons j judged ih =>
    cases hv : j.verdict with
    | deferred =>
      have hput : ∀ e ∈ Ascending.put j.candidate.name j.candidate.defer pending,
          e.2.name = e.1 := by
        intro e he
        rcases Ascending.mem_put he with rfl | hold
        · rfl
        · exact hkeyed e hold
      have hnext := ih _ hput
      rw [Ascending.map_fst_put] at hnext
      simpa [deferredNames, hv] using hnext
    | _ => simpa [deferredNames, hv] using ih pending hkeyed

/-- After a round the deferred names wait, each once and in order. -/
theorem map_fst_pendingAfter (judged : List Judgement) :
    (pendingAfter judged).map Prod.fst = Ascending.ofNames (deferredNames judged) :=
  (foldl_pendingAfter judged [] fun _ h => nomatch h).1

theorem pendingAfter_keyed (judged : List Judgement) : (pendingAfter judged).Keyed where
  strict := by
    rw [map_fst_pendingAfter]
    exact Ascending.strict_ofNames _
  own := (foldl_pendingAfter judged [] fun _ h => nomatch h).2

/-! ### Runs of rounds -/

namespace Processor

/-- A processor after some calls, whatever they gave. -/
inductive Reachable : Processor → Prop
  | start (options : Options) (checks : List Check) : Reachable (start options checks)
  | round {p : Processor} (mode : RoundMode) (t : SymbolTable) (hp : Reachable p) :
      Reachable (p.run mode t).2
  | finish {p : Processor} (hp : Reachable p) : Reachable p.finish.2

variable {p : Processor} {mode : RoundMode} {t : SymbolTable} {o : RoundOutput}

/-- Between calls the pending declarations stand under their own names. -/
theorem Reachable.keyed (hp : p.Reachable) : p.pending.Keyed := by
  induction hp with
  | start options checks => exact Pending.Keyed.nil
  | round mode t hp ih => exact pendingAfter_keyed _
  | finish hp ih => exact Pending.Keyed.nil

/-- The pending declarations whose names the table does not repeat. -/
def retried (p : Processor) (t : SymbolTable) : List ClassDeclaration :=
  (p.pending.map fun e => e.2.declaration).filter fun c =>
    !t.candidateNames.contains c.qualifiedName

theorem retried_eq (hp : p.pending.Keyed) :
    p.retried t = (p.pending.filter fun e => !t.candidateNames.contains e.1).map
      fun e => e.2.declaration := by
  unfold retried
  rw [List.filter_map]
  refine congrArg _ (List.filter_congr fun e he => ?_)
  have hname : e.2.declaration.qualifiedName = e.1 := hp.own e he
  simp only [Function.comp_apply, hname]

theorem strict_retried (hp : p.pending.Keyed) (t : SymbolTable) :
    Ascending.Strict ((p.retried t).map ClassDeclaration.qualifiedName) := by
  have hnames : p.pending.map (fun e => e.2.declaration.qualifiedName) = p.pending.map Prod.fst :=
    List.map_congr_left hp.own
  have hsub : ((p.retried t).map ClassDeclaration.qualifiedName).Sublist
      (p.pending.map Prod.fst) := by
    rw [← hnames, ← Function.comp_def, ← List.map_map]
    exact List.filter_sublist.map _
  exact hp.strict.sublist hsub

end Processor

/-! ### Judging all candidates -/

namespace RoundRules

variable {r : RoundRules} {t : SymbolTable} {registry : Client.FactoryRegistry}
  {cs : List Candidate} {log : Log}

theorem records_judgeAll (r : RoundRules) (t : SymbolTable) (registry : Client.FactoryRegistry)
    (cs : List Candidate) (log : Log) :
    log.records ⊆ (r.judgeAll t registry cs log).log.records := by
  induction cs generalizing registry log with
  | nil => exact List.Subset.refl _
  | cons c cs ih =>
    cases hrun : (r.judge t registry c).run.run log with
    | mk result after =>
      have hafter := (r.judge_steady t registry c).records hrun
      cases result with
      | error f =>
        rw [judgeAll_error hrun]
        exact hafter
      | ok judged =>
        rw [judgeAll_ok hrun]
        exact List.Subset.trans hafter (ih judged.2 after)

/-- Every verdict of a round is that of judging its candidate, after what came before, and
    what was recorded on the way is in the log of the round. -/
theorem exists_judge {j : Judgement} (hj : j ∈ (r.judgeAll t registry cs log).judged) :
    ∃ before front after back,
      (r.judge t before j.candidate).run.run front = (.ok (j.verdict, after), back)
        ∧ back.records ⊆ (r.judgeAll t registry cs log).log.records := by
  induction cs generalizing registry log with
  | nil => cases hj
  | cons c cs ih =>
    cases hrun : (r.judge t registry c).run.run log with
    | mk result after =>
      cases result with
      | error f => rw [judgeAll_error hrun] at hj; cases hj
      | ok judged =>
        obtain ⟨v, registry'⟩ := judged
        rw [judgeAll_ok hrun] at hj ⊢
        rcases List.mem_cons.mp hj with rfl | hj
        · exact ⟨registry, log, registry', after, hrun, records_judgeAll r t registry' cs after⟩
        · exact ih hj

/-- When nothing fails, every candidate is judged, in order. -/
theorem candidates_judgeAll (h : (r.judgeAll t registry cs log).failure = none) :
    (r.judgeAll t registry cs log).judged.map Judgement.candidate = cs := by
  induction cs generalizing registry log with
  | nil => rfl
  | cons c cs ih =>
    cases hrun : (r.judge t registry c).run.run log with
    | mk result after =>
      cases result with
      | error f => rw [judgeAll_error hrun] at h; cases h
      | ok judged =>
        obtain ⟨v, registry'⟩ := judged
        rw [judgeAll_ok hrun] at h ⊢
        exact congrArg (List.cons c) (ih h)

end RoundRules

/-! ### Accounts -/

/-- Declarations are dealt one by one onto four lists of names, each onto one of them. -/
inductive Dealt : List ClassDeclaration →
    (valid dropped deferred skipped : List String) → Prop
  | nil : Dealt [] [] [] [] []
  | valid {cs : List ClassDeclaration} {valid dropped deferred skipped : List String}
      (c : ClassDeclaration) (h : Dealt cs valid dropped deferred skipped) :
      Dealt (c :: cs) (c.qualifiedName :: valid) dropped deferred skipped
  | dropped {cs : List ClassDeclaration} {valid dropped deferred skipped : List String}
      (c : ClassDeclaration) (h : Dealt cs valid dropped deferred skipped) :
      Dealt (c :: cs) valid (c.qualifiedName :: dropped) deferred skipped
  | deferred {cs : List ClassDeclaration} {valid dropped deferred skipped : List String}
      (c : ClassDeclaration) (h : Dealt cs valid dropped deferred skipped) :
      Dealt (c :: cs) valid dropped (c.qualifiedName :: deferred) skipped
  | skipped {cs : List ClassDeclaration} {valid dropped deferred skipped : List String}
      (c : ClassDeclaration) (h : Dealt cs valid dropped deferred skipped) :
      Dealt (c :: cs) valid dropped deferred (c.qualifiedName :: skipped)

namespace RoundOutput

theorem names_cons (select : Verdict → Bool) (j : Judgement) (judged : List Judgement)
    (errors warnings errors' warnings' : Nat) :
    (⟨j :: judged, errors, warnings⟩ : RoundOutput).names select
      = (if select j.verdict then [j.candidate.name] else [])
        ++ (⟨judged, errors', warnings'⟩ : RoundOutput).names select := by
  unfold names
  by_cases h : select j.verdict = true
  · simp [h]
  · simp [h]

/-- The lists of an output deal out the judged declarations. -/
theorem dealt (judged : List Judgement) (errors warnings : Nat) :
    let o : RoundOutput := ⟨judged, errors, warnings⟩
    Dealt (judged.map fun j => j.candidate.declaration) o.valid o.dropped o.deferred o.skipped := by
  induction judged with
  | nil => exact Dealt.nil
  | cons j judged ih =>
    simp only [valid, dropped, deferred, skipped] at ih ⊢
    simp only [names_cons _ j judged errors warnings errors warnings, List.map_cons]
    cases hv : j.verdict with
    | valid files => exact Dealt.valid j.candidate.declaration ih
    | dropped => exact Dealt.dropped j.candidate.declaration ih
    | deferred => exact Dealt.deferred j.candidate.declaration ih
    | skipped => exact Dealt.skipped j.candidate.declaration ih

end RoundOutput

namespace Processor

variable {p : Processor} {mode : RoundMode} {t : SymbolTable} {o : RoundOutput}

/-- A round that succeeds has judged the candidates of its table and what still waited. -/
theorem declarations_judged (hp : p.pending.Keyed) (hrun : (p.run mode t).1.result = .ok o) :
    o.judged.map (fun j => j.candidate.declaration) = t.candidates ++ p.retried t := by
  obtain ⟨hdone, rfl⟩ := run_eq_ok.mp hrun
  have hcandidates := RoundRules.candidates_judgeAll hdone
  rw [retried_eq hp, ← declarations_roundCandidates, ← hcandidates, List.map_map]
  rfl

/-- Every candidate of a round stands in one of its lists, and exactly the deferred names
    wait afterwards. -/
theorem candidates_accounted (hp : p.Reachable) (hrun : (p.run mode t).1.result = .ok o) :
    Dealt (t.candidates ++ p.retried t) o.valid o.dropped o.deferred o.skipped
      ∧ Ascending.Strict ((p.retried t).map ClassDeclaration.qualifiedName)
      ∧ Ascending.Strict (p.run mode t).2.pendingNames
      ∧ ∀ name, name ∈ (p.run mode t).2.pendingNames ↔ name ∈ o.deferred := by
  have hpending : (p.run mode t).2.pendingNames = Ascending.ofNames o.deferred := by
    rw [run_after hrun]
    exact map_fst_pendingAfter o.judged
  rw [← declarations_judged hp.keyed hrun, hpending]
  refine ⟨RoundOutput.dealt o.judged o.errors o.warnings, strict_retried hp.keyed t, ?_, ?_⟩
  · exact Ascending.strict_ofNames o.deferred
  · intro name
    exact Ascending.mem_ofNames

def waiting : Processor :=
  ((start .default Check.all).check ⟨[waitingInterface], []⟩).2

def siblings : SymbolTable :=
  ⟨[acceptedInterface, unboundInterface], []⟩

theorem waiting_reachable : waiting.Reachable :=
  .round .check _ (.start .default Check.all)

/-- A round over two interfaces also judges the one that waits. -/
theorem candidates_accounted_of_waiting :
    ∃ o : RoundOutput, (waiting.process siblings).1.result = .ok o
      ∧ (o.valid = ["Users"] ∧ o.dropped = ["Broken"] ∧ o.deferred = ["Waiting"])
      ∧ Dealt (siblings.candidates ++ waiting.retried siblings)
          o.valid o.dropped o.deferred o.skipped
      ∧ "Waiting" ∈ (waiting.process siblings).2.pendingNames := by
  have hlists : ((waiting.process siblings).1.result.toOption.any fun o =>
      o.valid = ["Users"] ∧ o.dropped = ["Broken"] ∧ o.deferred = ["Waiting"]) = true := by
    decide +kernel
  obtain ⟨o, hrun, ho⟩ := ok_of_any hlists
  obtain ⟨hdealt, -, -, hpending⟩ := candidates_accounted waiting_reachable hrun
  refine ⟨o, hrun, ho, hdealt, (hpending "Waiting").mpr ?_⟩
  rw [ho.2.2]
  exact List.mem_singleton_self _

end Processor

end ClientGen
