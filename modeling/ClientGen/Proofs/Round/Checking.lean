/-
  ClientGen/Proofs/Round/Checking.lean
  ====================================
  **Checking agrees with generating.**

  A round that only checks judges every candidate as the round that generates does; it
  writes no files and raises no more messages.  The two rounds see different registries
  and logs from the first generated interface on, so the induction over the candidates
  carries any two registries and any two logs of which that of the check is no fuller.
-/
import ClientGen.Proofs.Diagnostics.Anticipation
import ClientGen.Proofs.Round.Accounting

namespace ClientGen

open ClientGen.Client

/-! ### Verdicts without files -/

/-- The verdict without its files. -/
def Verdict.unwritten : Verdict → Verdict
  | .valid _ => .valid []
  | v => v

/-- The judgement without the files of its verdict. -/
def Judgement.unwritten (j : Judgement) : Judgement :=
  { j with verdict := j.verdict.unwritten }

/-- The rules of a round that writes nothing. -/
def RoundRules.checking (r : RoundRules) : RoundRules :=
  { r with mode := .check }

namespace RoundRules

variable {r : RoundRules} {t : SymbolTable} {registry registry' : FactoryRegistry}
  {c : Candidate}

def SameUnwritten (a b : Judged) : Prop :=
  a.1 = b.1.unwritten

theorem generateFiles_anticipates (r : RoundRules) (registry registry' : FactoryRegistry)
    (m : InterfaceModel) :
    Anticipates SameUnwritten (r.checking.generateFiles registry' m)
      (r.generateFiles registry m) := by
  have hcheck : r.checking.generateFiles registry' m = pure (.valid [], registry') := rfl
  rw [hcheck]
  unfold generateFiles
  cases r.mode with
  | check => exact Anticipates.pure rfl
  | generate =>
    apply Anticipates.extra
    · exact .of _ (Does.pure _)
    · exact generate_steady m r.options registry
    · intro result
      exact Anticipates.pure rfl

theorem judgeExtraction_anticipates (r : RoundRules) (registry registry' : FactoryRegistry)
    (c : Candidate) (e : Extraction) :
    Anticipates SameUnwritten (r.checking.judgeExtraction registry' c e)
      (r.judgeExtraction registry c e) := by
  cases e with
  | ready m =>
    refine Anticipates.bind (.of _ (validate_does r.checks m r.options)) fun accepted => ?_
    cases accepted with
    | none => exact Anticipates.pure rfl
    | some m => exact r.generateFiles_anticipates registry registry' m
  | deferred names =>
    simp only [judgeExtraction, judgeUnresolved]
    by_cases hoften : r.options.maxDeferredRounds < c.deferrals + 1
    · rw [if_pos hoften]
      apply Anticipates.of_dying
      exact r.checking.judgeExtraction_steady registry' c (.deferred names)
    · rw [if_neg hoften]
      have hcheck : ¬ r.checking.options.maxDeferredRounds < c.deferrals + 1 := hoften
      rw [if_neg hcheck]
      exact Anticipates.pure rfl
  | rejected => exact Anticipates.pure rfl
  | skipped => exact Anticipates.pure rfl

theorem judge_anticipates (r : RoundRules) (t : SymbolTable)
    (registry registry' : FactoryRegistry) (c : Candidate) :
    Anticipates SameUnwritten (r.checking.judge t registry' c) (r.judge t registry c) := by
  apply Anticipates.task
  refine Anticipates.bind (.of _ (c.declaration.extract_does _)) fun e => ?_
  exact r.judgeExtraction_anticipates registry registry' c e

/-- Where generating judges every candidate, checking does too, and alike. -/
theorem judgeAll_checking (registry registry' : FactoryRegistry) {cs : List Candidate}
    {log log' : Log}
    (hless : ∀ severity, log'.count severity ≤ log.count severity)
    (hdone : (r.judgeAll t registry cs log).failure = none) :
    (r.checking.judgeAll t registry' cs log').failure = none
      ∧ (r.checking.judgeAll t registry' cs log').judged
          = (r.judgeAll t registry cs log).judged.map Judgement.unwritten
      ∧ ∀ severity, (r.checking.judgeAll t registry' cs log').log.count severity
          ≤ (r.judgeAll t registry cs log).log.count severity := by
  induction cs generalizing registry registry' log log' with
  | nil => exact ⟨rfl, rfl, hless⟩
  | cons c cs ih =>
    cases hrun : (r.judge t registry c).run.run log with
    | mk result after =>
      cases result with
      | error f => rw [judgeAll_error hrun] at hdone; cases hdone
      | ok judged =>
        obtain ⟨v, next⟩ := judged
        obtain ⟨⟨v', next'⟩, after', hrun', hsame, hless'⟩ :=
          (r.judge_anticipates t registry registry' c).run hrun hless
        rw [judgeAll_ok hrun] at hdone ⊢
        rw [judgeAll_ok hrun']
        obtain ⟨hfailure, hjudged, hcounts⟩ := ih next next' hless' hdone
        refine ⟨hfailure, ?_, hcounts⟩
        have hv : v' = v.unwritten := hsame
        simp only [hjudged, hv, List.map_cons, Judgement.unwritten]

end RoundRules

/-! ### Outputs without files -/

namespace RoundOutput

/-- The lists of an output do not look at files. -/
theorem names_unwritten {o o' : RoundOutput} {select : Verdict → Bool}
    (h : o'.judged = o.judged.map Judgement.unwritten)
    (hselect : ∀ v : Verdict, select v.unwritten = select v) : o'.names select = o.names select := by
  unfold names
  rw [h, List.filter_map, List.map_map]
  have hsame : (fun j : Judgement => select j.verdict) ∘ Judgement.unwritten
      = fun j => select j.verdict := by
    funext j
    exact hselect j.verdict
  rw [hsame]
  rfl

theorem files_unwritten {o : RoundOutput} {judged : List Judgement}
    (h : o.judged = judged.map Judgement.unwritten) : o.files = [] := by
  unfold files
  rw [h, List.flatMap_map, List.flatMap_eq_nil_iff]
  intro j _
  cases hv : j.verdict <;> simp [Judgement.unwritten, hv, Verdict.unwritten, filesOf]

end RoundOutput

theorem pendingAfter_unwritten (judged : List Judgement) :
    pendingAfter (judged.map Judgement.unwritten) = pendingAfter judged := by
  unfold pendingAfter
  rw [List.foldl_map]
  congr 1
  funext pending j
  cases hv : j.verdict <;> simp [Judgement.unwritten, hv, Verdict.unwritten]

/-! ### Rounds -/

namespace Processor

/-- Checking agrees with generating: it fails of nothing else, and where generating
    succeeds it gives the same lists and waits for the same declarations. -/
theorem check_agrees (p : Processor) (t : SymbolTable) :
    (∀ o, (p.process t).1.result = .ok o → ∃ o', (p.check t).1.result = .ok o'
        ∧ o'.valid = o.valid ∧ o'.dropped = o.dropped ∧ o'.deferred = o.deferred
        ∧ o'.skipped = o.skipped ∧ o'.files = []
        ∧ o'.errors ≤ o.errors ∧ o'.warnings ≤ o.warnings
        ∧ (p.check t).2 = (p.process t).2)
      ∧ ∀ f, (p.check t).1.result = .error f → ∃ f', (p.process t).1.result = .error f' := by
  have hagree : ∀ o, (p.process t).1.result = .ok o → ∃ o', (p.check t).1.result = .ok o'
      ∧ o'.valid = o.valid ∧ o'.dropped = o.dropped ∧ o'.deferred = o.deferred
      ∧ o'.skipped = o.skipped ∧ o'.files = []
      ∧ o'.errors ≤ o.errors ∧ o'.warnings ≤ o.warnings
      ∧ (p.check t).2 = (p.process t).2 := by
    intro o hrun
    obtain ⟨hdone, rfl⟩ := run_eq_ok.mp hrun
    obtain ⟨hfailure, hjudged, hcounts⟩ :=
      RoundRules.judgeAll_checking .empty .empty (fun severity => Nat.le_refl _) hdone
    have hcheck : (p.check t).1.result = .ok ⟨(p.judgements .check t).judged,
        (p.judgements .check t).log.errorCount, (p.judgements .check t).log.warningCount⟩ :=
      run_eq_ok.mpr ⟨hfailure, rfl⟩
    refine ⟨_, hcheck, ?_, ?_, ?_, ?_, RoundOutput.files_unwritten hjudged, hcounts .error,
      hcounts .warning, ?_⟩
    · exact RoundOutput.names_unwritten hjudged fun v => by cases v <;> rfl
    · exact RoundOutput.names_unwritten hjudged fun v => by cases v <;> rfl
    · exact RoundOutput.names_unwritten hjudged fun v => by cases v <;> rfl
    · exact RoundOutput.names_unwritten hjudged fun v => by cases v <;> rfl
    · have hpending : pendingAfter (p.judgements .check t).judged
          = pendingAfter (p.judgements .generate t).judged :=
        (congrArg pendingAfter hjudged).trans (pendingAfter_unwritten _)
      unfold check process
      rw [run_after hcheck, run_after hrun]
      exact congrArg (fun pending => { p with pending := pending, rounds := p.rounds + 1 }) hpending
  refine ⟨hagree, fun f haborted => ?_⟩
  cases hrun : (p.process t).1.result with
  | error f' => exact ⟨f', rfl⟩
  | ok o =>
    obtain ⟨o', hcheck, -⟩ := hagree o hrun
    rw [hcheck] at haborted
    cases haborted

def impatient : Processor :=
  ((start { Options.default with maxDeferredRounds := 1 } Check.all).check
    ⟨[waitingInterface], []⟩).2

/-- Checking two interfaces writes nothing and lists what generating lists; checking an
    interface that waited too long aborts as generating does. -/
theorem check_agrees_of_siblings :
    (∃ o o' : RoundOutput, (waiting.process siblings).1.result = .ok o
        ∧ (waiting.check siblings).1.result = .ok o'
        ∧ o.files.length = 1 ∧ o'.files = []
        ∧ o.valid = ["Users"] ∧ o'.valid = o.valid
        ∧ o.dropped = ["Broken"] ∧ o'.dropped = o.dropped
        ∧ o.deferred = ["Waiting"] ∧ o'.deferred = o.deferred
        ∧ (waiting.check siblings).2 = (waiting.process siblings).2)
      ∧ ∃ f', (impatient.process ⟨[], []⟩).1.result = .error f' := by
  constructor
  · have hlists : ((waiting.process siblings).1.result.toOption.any fun o =>
        o.files.length = 1 ∧ o.valid = ["Users"] ∧ o.dropped = ["Broken"]
          ∧ o.deferred = ["Waiting"]) = true := by
      decide +kernel
    obtain ⟨o, hrun, hfiles, hvalid, hdropped, hdeferred⟩ := ok_of_any hlists
    obtain ⟨o', hcheck, hvalid', hdropped', hdeferred', -, hfiles', -, -, hafter⟩ :=
      (check_agrees waiting siblings).1 o hrun
    exact ⟨o, o', hrun, hcheck, hfiles, hfiles', hvalid, hvalid', hdropped, hdropped',
      hdeferred, hdeferred', hafter⟩
  · have haborts : (impatient.check ⟨[], []⟩).1.result.toOption.isNone = true := by
      decide +kernel
    cases hcheck : (impatient.check ⟨[], []⟩).1.result with
    | error f => exact (check_agrees impatient ⟨[], []⟩).2 f hcheck
    | ok o => rw [hcheck] at haborts; cases haborts

end Processor

end ClientGen
