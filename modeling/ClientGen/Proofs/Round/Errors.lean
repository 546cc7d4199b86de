/-
  ClientGen/Proofs/Round/Errors.lean
  ==================================
  **No interface is dropped silently, and none without a cause.**

  Whether an interface is dropped is decided in several places, and errors are recorded
  elsewhere.  Each stage is therefore told by its conduct: extraction raises errors exactly
  when it rejects (`conduct_blames`), and the checks raise as many as they count
  (`countAll_checks`).  Judging adds one step per candidate to the step of the round
  (`judge_does`), and so the log of a round that succeeds is one step for each judgement, in
  order (`judgeAll_after`), with an error inside wherever the interface was dropped.
-/
import ClientGen.Proofs.Diagnostics.Anticipation
import ClientGen.Proofs.Diagnostics.Reports
import ClientGen.Proofs.Diagnostics.Scripts
import ClientGen.Proofs.Related
import ClientGen.Proofs.Round.Accounting

namespace ClientGen

open ClientGen.Client ClientGen.Text

/-! ### Errors of a stage -/

theorem countAll_findings (fs : List Finding) :
    Happening.countAll .error (fs.map Finding.happening) = errorsIn fs := by
  induction fs with
  | nil => rfl
  | cons f fs ih =>
    simp only [List.map_cons, Happening.countAll, ih]
    by_cases herror : f.severity = .error
    · simp [Finding.happening, Happening.count, errorsIn, Finding.isError, herror, Nat.add_comm]
    · simp [Finding.happening, Happening.count, errorsIn, Finding.isError, herror]

/-- The steps of checks hold as many errors as the checks count. -/
theorem countAll_checks (c : Context) (checks : List Check) :
    Happening.countAll .error (checks.map (Check.happening c)) = errorsOf c checks := by
  induction checks with
  | nil => rfl
  | cons check checks ih =>
    simp only [List.map_cons, Happening.countAll, ih, Check.happening, Happening.count,
      countAll_findings, errorsOf, List.sum_cons]

/-- The work raises errors exactly when it returns something that stands for them. -/
def Conduct.Blames {α : Type} (blamed : α → Prop) (c : Conduct α) : Prop :=
  ∀ a, c.ending = .returns a → (0 < Happening.countAll .error c.happenings ↔ blamed a)

theorem Conduct.Blames.returns {α : Type} {blamed : α → Prop} {a : α} {hs : List Happening}
    (h : 0 < Happening.countAll .error hs ↔ blamed a) : Conduct.Blames blamed ⟨.returns a, hs⟩ := by
  intro b hb
  cases hb
  exact h

theorem Conduct.Blames.die {α : Type} {blamed : α → Prop} (message : String)
    (symbol : Option String) : (Conduct.die message symbol).Blames blamed :=
  fun _ hb => nomatch hb

theorem countAll_noted (text : String) : Happening.countAll .error [noted text] = 0 :=
  rfl

namespace ClassDeclaration

variable (c : ClassDeclaration) (factories : List FunctionDeclaration)

theorem resolvedConduct_blames (file : FileRef) :
    (c.resolvedConduct factories file).Blames (· = .rejected) := by
  unfold resolvedConduct
  simp only
  split
  · exact .returns (by simp [countAll_noted])
  · split
    · rename_i herrors
      exact .returns (iff_of_true herrors rfl)
    · rename_i hnone
      refine .returns ?_
      rw [Happening.countAll_append, countAll_noted, Nat.add_zero]
      exact iff_of_false hnone nofun

/-- Extraction raises errors exactly when it rejects the declaration. -/
theorem conduct_blames : (c.conduct factories).Blames (· = .rejected) := by
  have hcommon : (c.commonConduct factories).Blames (· = .rejected) := by
    unfold commonConduct
    split
    · exact .returns (iff_of_true Nat.one_pos rfl)
    · split
      · exact .returns (iff_of_true Nat.one_pos rfl)
      · split
        · exact c.resolvedConduct_blames factories _
        · exact .returns (by simp [countAll_noted])
  unfold conduct
  split
  · exact .die _ _
  · split
    · exact .die _ _
    · exact hcommon

end ClassDeclaration

/-! ### One candidate -/

/-- The errors raised while a candidate is judged tell whether it is dropped; only the
    writing of files may raise errors about a candidate that is not. -/
structure Verdict.Explains (mode : RoundMode) (v : Verdict) (inner : List Happening) : Prop where
  dropped : v = .dropped → 0 < Happening.countAll .error inner
  clean : v ≠ .dropped → (mode = .check ∨ ∀ files, v ≠ .valid files) →
    Happening.countAll .error inner = 0

theorem Verdict.explains_nothing {mode : RoundMode} {v : Verdict} (hkept : v ≠ .dropped) :
    v.Explains mode [] :=
  ⟨fun hv => (hkept hv).elim, fun _ _ => rfl⟩

namespace RoundRules

variable {r : RoundRules} {t : SymbolTable} {registry registry' : FactoryRegistry}
  {c : Candidate} {v : Verdict} {log log' : Log}

theorem generateFiles_does {m : InterfaceModel}
    (h : (r.generateFiles registry m).run.run log = (.ok (v, registry'), log')) :
    ∃ hs, Does (r.generateFiles registry m) ⟨.returns (v, registry'), hs⟩
      ∧ v.Explains r.mode hs := by
  obtain ⟨files, rfl⟩ := generateFiles_valid h
  have hkept : Verdict.valid files ≠ .dropped := Verdict.noConfusion
  cases hmode : r.mode with
  | check =>
    simp only [generateFiles, hmode] at h ⊢
    cases h
    exact ⟨[], Does.pure _, Verdict.explains_nothing hkept⟩
  | generate =>
    obtain ⟨hs, hdoes⟩ := (r.generateFiles_steady registry m).yields h
    refine ⟨hs, hdoes, fun hv => (hkept hv).elim, fun _ hquiet => ?_⟩
    rcases hquiet with hcheck | hfiles
    · cases hcheck
    · exact (hfiles files rfl).elim

theorem judgeModel_does {m : InterfaceModel}
    (h : (r.judgeModel registry m).run.run log = (.ok (v, registry'), log')) :
    ∃ hs, Does (r.judgeModel registry m) ⟨.returns (v, registry'), hs⟩
      ∧ v.Explains r.mode hs := by
  obtain ⟨accepted, between, hvalidate, hfiles⟩ := StepM.ok_of_bind h
  have hchecks := validate_does r.checks m r.options
  have hending := hchecks.ending_eq_returns hvalidate
  unfold validationConduct at hchecks hending
  split at hending
  · cases hending
  · rename_i hsome
    simp only [if_neg hsome] at hchecks
    cases hending
    by_cases hzero : errorsOf ⟨m, r.options⟩ r.checks = 0
    · rw [if_pos hzero] at hfiles hchecks
      obtain ⟨hs, hdoes, hexplains⟩ := generateFiles_does hfiles
      refine ⟨_, hchecks.followed hdoes rfl, ?_, ?_⟩
      · intro hv
        rw [Happening.countAll_append]
        exact Nat.add_pos_right _ (hexplains.dropped hv)
      · intro hv hquiet
        rw [Happening.countAll_append, countAll_checks, hzero, hexplains.clean hv hquiet]
    · rw [if_neg hzero] at hfiles hchecks
      cases hfiles
      refine ⟨_, hchecks.followed (Does.pure _) rfl, ?_, fun hv => (hv rfl).elim⟩
      intro _
      rw [Happening.countAll_append, countAll_checks]
      exact Nat.add_pos_left (Nat.pos_of_ne_zero hzero) _

/-- Judging a candidate adds one step with its name, and the errors in it tell whether the
    candidate is dropped. -/
theorem judge_does (h : (r.judge t registry c).run.run log = (.ok (v, registry'), log')) :
    ∃ inner, Does (r.judge t registry c)
        ⟨.returns (v, registry'), [.step ("Interface " ++ c.name) .completed inner]⟩
      ∧ v.Explains r.mode inner := by
  obtain ⟨inside, h⟩ := StepM.ok_of_task h
  obtain ⟨e, between, hextract, hrest⟩ := StepM.ok_of_bind h
  have hextraction := c.declaration.extract_does (t.factoriesOf c.name)
  have hending := hextraction.ending_eq_returns hextract
  have hblames := c.declaration.conduct_blames (t.factoriesOf c.name) e hending
  have hdoes : Does (c.declaration.extract (t.factoriesOf c.name))
      ⟨.returns e, (c.declaration.conduct (t.factoriesOf c.name)).happenings⟩ := by
    rw [← hending]
    exact hextraction
  -- What follows the extraction explains the verdict, unless the extraction did.
  have hstep : ∀ hs, Does (r.judgeExtraction registry c e) ⟨.returns (v, registry'), hs⟩ →
      (e = .rejected → v = .dropped) → (e ≠ .rejected → v.Explains r.mode hs) →
      ∃ inner, Does (r.judge t registry c)
          ⟨.returns (v, registry'), [.step ("Interface " ++ c.name) .completed inner]⟩
        ∧ v.Explains r.mode inner := by
    intro hs hjudged hrejected hexplains
    refine ⟨_, (hdoes.followed hjudged rfl).task _, ?_⟩
    by_cases he : e = .rejected
    · refine ⟨fun _ => ?_, fun hv => (hv (hrejected he)).elim⟩
      rw [Happening.countAll_append]
      exact Nat.add_pos_left (hblames.mpr he) _
    · have hnone : Happening.countAll .error
          (c.declaration.conduct (t.factoriesOf c.name)).happenings = 0 := by
        have hnot := mt hblames.mp he
        omega
      refine ⟨fun hv => ?_, fun hv hquiet => ?_⟩
      · rw [Happening.countAll_append]
        exact Nat.add_pos_right _ ((hexplains he).dropped hv)
      · rw [Happening.countAll_append, hnone, (hexplains he).clean hv hquiet]
  cases e with
  | ready m =>
    obtain ⟨hs, hjudged, hexplains⟩ := judgeModel_does hrest
    exact hstep hs hjudged Extraction.noConfusion fun _ => hexplains
  | deferred names =>
    simp only [judgeExtraction, judgeUnresolved] at hrest hstep
    split at hrest
    · cases hrest
    · rename_i hfew
      simp only [if_neg hfew] at hstep
      cases hrest
      exact hstep [] (Does.pure _) Extraction.noConfusion fun _ =>
        Verdict.explains_nothing Verdict.noConfusion
  | rejected =>
    cases hrest
    exact hstep [] (Does.pure _) (fun _ => rfl) fun he => (he rfl).elim
  | skipped =>
    cases hrest
    exact hstep [] (Does.pure _) Extraction.noConfusion fun _ =>
      Verdict.explains_nothing Verdict.noConfusion

/-! ### All candidates -/

/-- What happened while a candidate was judged is one step with its name, and the errors in it
    explain the verdict. -/
def Tells (mode : RoundMode) (j : Judgement) (h : Happening) : Prop :=
  ∃ inner, h = .step ("Interface " ++ j.candidate.name) .completed inner
    ∧ j.verdict.Explains mode inner

/-- When nothing fails, the candidates add one step each, in order. -/
theorem judgeAll_after {cs : List Candidate}
    (h : (r.judgeAll t registry cs log).failure = none) :
    ∃ hs, (r.judgeAll t registry cs log).log = log.after hs
      ∧ List.Forall₂ (Tells r.mode) (r.judgeAll t registry cs log).judged hs := by
  induction cs generalizing registry log with
  | nil => exact ⟨[], (Log.after_nil log).symm, .nil⟩
  | cons c cs ih =>
    cases hrun : (r.judge t registry c).run.run log with
    | mk result between =>
      cases result with
      | error f => rw [judgeAll_error hrun] at h; cases h
      | ok judged =>
        obtain ⟨v, registry'⟩ := judged
        obtain ⟨inner, hdoes, hexplains⟩ := judge_does hrun
        have hbetween : between = log.after [.step ("Interface " ++ c.name) .completed inner] :=
          (Prod.mk.inj (hrun.symm.trans (hdoes log))).2
        rw [judgeAll_ok hrun] at h ⊢
        obtain ⟨hs, hlog, htells⟩ := ih h
        refine ⟨_, hlog.trans ?_, .cons ⟨inner, rfl, hexplains⟩ htells⟩
        rw [hbetween, Log.after_append]
        rfl

end RoundRules

/-! ### Steps of the tree -/

theorem Happening.walkAll_entries (path : List String) (hs : List Happening) :
    StepEntry.walkAll path (Happening.entries path hs)
      = (Happening.allRecords path hs).map Diagnostic.located := by
  match hs with
  | [] => rfl
  | .message severity text symbol :: hs =>
    simp only [entries, entry, StepEntry.walkAll, walkAll_entries path hs, allRecords, records,
      List.singleton_append, List.map_cons, Diagnostic.located]
  | .step name closing inner :: hs =>
    simp only [entries, entry, StepEntry.walkAll, StepNode.walk, walkAll_entries path hs,
      walkAll_entries (path ++ [name]) inner, allRecords, records, List.map_append]

theorem Happening.exists_error {path : List String} {hs : List Happening} :
    (∃ d ∈ allRecords path hs, d.severity = .error) ↔ 0 < countAll .error hs := by
  rw [← count_allRecords .error path hs, List.length_filter_pos_iff]
  simp only [beq_iff_eq]

/-- A step of a round is that of a judged interface, and these records were raised in it: one
    of them is an error if the interface is dropped, and none if it is not, unless its files
    were written there. -/
structure Judgement.IsStep (mode : RoundMode) (round : String) (j : Judgement) (s : StepNode)
    (inside : List Diagnostic) : Prop where
  name : s.name = "Interface " ++ j.candidate.name
  segment : Log.IsSegment s [round] inside
  dropped : j.verdict = .dropped → ∃ d ∈ inside, d.severity = .error
  clean : j.verdict ≠ .dropped → (mode = .check ∨ ∀ files, j.verdict ≠ .valid files) →
    ∀ d ∈ inside, d.severity ≠ .error

theorem RoundRules.Tells.isStep {mode : RoundMode} {j : Judgement} {h : Happening}
    (htells : Tells mode j h) (round : String) :
    ∃ s, h.entry [round] = .step s ∧ j.IsStep mode round s (h.records [round]) := by
  obtain ⟨inner, rfl, hexplains⟩ := htells
  refine ⟨_, rfl, rfl, ?_, ?_, ?_⟩
  · apply Log.isSegment_of_walk
    exact Happening.walkAll_entries _ inner
  · intro hv
    exact Happening.exists_error.mpr (hexplains.dropped hv)
  · intro hv hquiet d hd herror
    have hsome := Happening.exists_error.mp ⟨d, hd, herror⟩
    have hnone := hexplains.clean hv hquiet
    omega

/-- The steps of the judged interfaces, in the tree and in the list of records. -/
theorem RoundRules.Tells.isSteps {mode : RoundMode} {judged : List Judgement}
    {hs : List Happening} (htells : List.Forall₂ (Tells mode) judged hs) (round : String) :
    ∃ steps : List (StepNode × List Diagnostic),
      Happening.entries [round] hs = steps.map (fun s => .step s.1)
      ∧ Happening.allRecords [round] hs = steps.flatMap Prod.snd
      ∧ List.Forall₂ (fun j s => j.IsStep mode round s.1 s.2) judged steps := by
  induction htells with
  | nil => exact ⟨[], rfl, rfl, .nil⟩
  | @cons j h _ _ hfirst _ ih =>
    obtain ⟨steps, hentries, hrecords, hsteps⟩ := ih
    obtain ⟨s, hentry, hstep⟩ := hfirst.isStep round
    refine ⟨(s, h.records [round]) :: steps, ?_, ?_, .cons hstep hsteps⟩
    · rw [Happening.entries, hentry, hentries, List.map_cons]
    · rw [Happening.allRecords, hrecords, List.flatMap_cons]

/-! ### Rounds -/

theorem RoundOutput.mem_names {o : RoundOutput} {select : Verdict → Bool} {verdict : Verdict}
    (hselect : ∀ v, select v = true ↔ v = verdict) {name : String} :
    name ∈ o.names select ↔ ∃ j ∈ o.judged, j.verdict = verdict ∧ j.candidate.name = name :=
  mem_names_iff select hselect

theorem RoundOutput.mem_dropped {o : RoundOutput} {name : String} :
    name ∈ o.dropped ↔ ∃ j ∈ o.judged, j.verdict = .dropped ∧ j.candidate.name = name := by
  unfold RoundOutput.dropped
  refine RoundOutput.mem_names fun v => ?_
  cases v with
  | dropped => simp
  | _ => simp

theorem Log.errorCount_pos_iff {log : Log} {steps : List (StepNode × List Diagnostic)}
    (h : log.records = steps.flatMap Prod.snd) :
    0 < log.errorCount ↔ ∃ s ∈ steps, ∃ d ∈ s.2, d.severity = .error := by
  rw [errorCount, count, List.length_filter_pos_iff, h]
  simp only [beq_iff_eq, List.mem_flatMap]
  constructor
  · rintro ⟨d, ⟨s, hs, hd⟩, herror⟩
    exact ⟨s, hs, d, hd, herror⟩
  · rintro ⟨s, hs, d, hd, herror⟩
    exact ⟨d, ⟨s, hs, hd⟩, herror⟩

namespace Processor

variable {p : Processor} {mode : RoundMode} {t : SymbolTable} {o : RoundOutput}

/-- A round that succeeds has one step for each judged interface, in order.  Errors stand in the
    steps of all dropped interfaces, and in a check in no other step. -/
theorem verdicts_explained (hrun : (p.run mode t).1.result = .ok o) :
    (∃ steps : List (StepNode × List Diagnostic),
        (p.run mode t).1.log.tree
          = ⟨roundName (p.rounds + 1), .completed, steps.map fun s => .step s.1⟩
        ∧ (p.run mode t).1.log.records = steps.flatMap Prod.snd
        ∧ List.Forall₂ (fun j s => j.IsStep mode (roundName (p.rounds + 1)) s.1 s.2)
            o.judged steps)
      ∧ (o.errors = 0 → o.dropped = [])
      ∧ (mode = .check → 0 < o.errors → o.dropped ≠ []) := by
  obtain ⟨hdone, rfl⟩ := run_eq_ok.mp hrun
  obtain ⟨hs, hlog, htells⟩ := RoundRules.judgeAll_after hdone
  obtain ⟨steps, hentries, hrecords, hsteps⟩ :=
    RoundRules.Tells.isSteps htells (roundName (p.rounds + 1))
  have hlog' : (p.judgements mode t).log
      = (Log.opened (roundName (p.rounds + 1))).after hs := hlog
  have hall : (p.judgements mode t).log.records = steps.flatMap Prod.snd := by
    rw [hlog', ← hrecords]
    rfl
  have herrors := Log.errorCount_pos_iff hall
  refine ⟨⟨steps, ?_, ?_, hsteps⟩, ?_, ?_⟩
  · change (p.judgements mode t).log.finish.tree = _
    rw [hlog', Log.finish, Log.closeRoot_after, Log.tree_withStatus, hentries]
  · exact (Log.records_finish _).trans hall
  -- A dropped name belongs to a judged candidate, and its step holds an error.
  · intro hzero
    rw [List.eq_nil_iff_forall_not_mem]
    intro name hname
    obtain ⟨j, hj, hv, -⟩ := RoundOutput.mem_dropped.mp hname
    obtain ⟨s, hs, hstep⟩ := exists_mem_of_forall₂ hsteps hj
    have hsome := herrors.mpr ⟨s, hs, hstep.dropped hv⟩
    simp only at hzero
    omega
  -- An error stands in some step, and in a check only a dropped candidate has such a step.
  · intro hcheck hsome hnone
    obtain ⟨s, hs, d, hd, herror⟩ := herrors.mp hsome
    obtain ⟨j, hj, hstep⟩ := exists_mem_of_forall₂ hsteps.flip hs
    refine hstep.clean (fun hv => ?_) (.inl hcheck) d hd herror
    exact List.eq_nil_iff_forall_not_mem.mp hnone _ (RoundOutput.mem_dropped.mpr ⟨j, hj, hv, rfl⟩)

/-- The check of an accepted, a dropped and a waiting interface records errors in the step of the
    dropped one. -/
theorem verdicts_explained_of_waiting :
    ∃ o : RoundOutput, (waiting.check siblings).1.result = .ok o
      ∧ (o.valid = ["Users"] ∧ o.dropped = ["Broken"] ∧ o.deferred = ["Waiting"] ∧ 0 < o.errors)
      ∧ (∃ s inside, .step s ∈ (waiting.check siblings).1.log.tree.entries
          ∧ Log.IsSegment s [roundName 2] inside ∧ s.name = "Interface Broken"
          ∧ ∃ d ∈ inside, d.severity = .error)
      ∧ o.dropped ≠ [] := by
  have hlists : ((waiting.check siblings).1.result.toOption.any fun o =>
      o.valid = ["Users"] ∧ o.dropped = ["Broken"] ∧ o.deferred = ["Waiting"] ∧ 0 < o.errors)
        = true := by
    decide +kernel
  obtain ⟨o, hrun, ho⟩ := ok_of_any hlists
  obtain ⟨⟨steps, htree, hrecords, hsteps⟩, hzero, hsome⟩ := verdicts_explained hrun
  have hbroken : "Broken" ∈ o.dropped := by rw [ho.2.1]; exact List.mem_singleton_self _
  obtain ⟨j, hj, hv, hname⟩ := RoundOutput.mem_dropped.mp hbroken
  obtain ⟨s, hs, hstep⟩ := exists_mem_of_forall₂ hsteps hj
  refine ⟨o, hrun, ho, ⟨s.1, s.2, ?_, hstep.segment, ?_, hstep.dropped hv⟩,
    hsome rfl ho.2.2.2⟩
  · change _ ∈ (waiting.run .check siblings).1.log.tree.entries
    rw [htree]
    exact List.mem_map.mpr ⟨s, hs, rfl⟩
  · rw [hstep.name, hname]
    rfl

end Processor

end ClientGen
