/-
  ClientGen/Proofs/Round/Order.lean
  =================================
  **The order of the classes of a table does not matter.**

  The candidates of a round share a registry of factories, and what a candidate gets from
  it is only whether its own keys are free.  A judgement stands when its candidate is
  judged so in every registry that admits its keys (`judge_stands`).  In a round without a
  duplicate factory every judgement stands and no key is wanted twice
  (`judgeAll_stands`); such judgements come out again in any order (`judgeAll_of_stands`).
-/
import ClientGen.Proofs.Client.Enrollment
import ClientGen.Proofs.Round.Files

namespace ClientGen

open ClientGen.Client ClientGen.Client.FactoryRegistry

/-- What is mapped onto a permutation can be permuted itself. -/
theorem exists_perm_of_map_perm {α β : Type} {f : α → β} {xs : List α} {ys : List β}
    (h : ys.Perm (xs.map f)) : ∃ zs : List α, zs.map f = ys ∧ zs.Perm xs := by
  have hmap : List.Forall₂ (fun y x => y = f x) (xs.map f) xs := by
    rw [List.forall₂_map_left_iff, List.forall₂_same]
    exact fun x _ => rfl
  obtain ⟨zs, hzs, hperm⟩ := List.perm_comp_forall₂ h hmap
  rw [← List.forall₂_map_right_iff, List.forall₂_eq_eq_eq] at hzs
  exact ⟨zs, hzs.symm, hperm⟩

/-! ### Judgements that stand -/

/-- The keys of the factories that an accepted candidate registers. -/
def Judgement.keys (t : SymbolTable) (j : Judgement) : List FactoryKey :=
  (j.model? t).elim [] InterfaceModel.factoryKeys

/-- In every registry that admits its keys the candidate is judged so and registers them. -/
def Judgement.Stands (r : RoundRules) (t : SymbolTable) (j : Judgement) : Prop :=
  ∀ other : FactoryRegistry, other.Admits (j.keys t) →
    Yields (r.judge t other j.candidate) (j.verdict, other.adding (j.keys t))

namespace RoundRules

variable {r : RoundRules} {t : SymbolTable} {registry registry' : FactoryRegistry}
  {c : Candidate} {v : Verdict} {log log' : Log}

/-- Where no duplicate factory is reported, the keys were admitted and the judgement stands. -/
theorem judge_stands (hmode : r.mode = .generate)
    (h : (r.judge t registry c).run.run log = (.ok (v, registry'), log'))
    (hquiet : ∀ d ∈ log'.records, ¬ d.ReportsDuplicate) :
    registry.Admits (Judgement.keys t ⟨c, v⟩)
      ∧ registry' = registry.adding (Judgement.keys t ⟨c, v⟩)
      ∧ Judgement.Stands r t ⟨c, v⟩ := by
  cases v with
  | valid files =>
    obtain ⟨m, before, after, haccepts, hgenerate, hrecords⟩ := judge_valid hmode h
    have hkeys : Judgement.keys t ⟨c, .valid files⟩ = m.factoryKeys := by
      rw [Judgement.keys, Judgement.model?, haccepts.modelIn]
      rfl
    have hadmits : registry.Admits m.factoryKeys := by
      rcases generate_reports hgenerate with hadmits | ⟨d, hd, hreports⟩
      · exact hadmits
      · rw [hrecords] at hd
        exact (hquiet d hd hreports).elim
    obtain ⟨hregistry, hgenerated⟩ := generate_yields hgenerate hadmits
    rw [Judgement.Stands, hkeys]
    refine ⟨hadmits, hregistry, fun other hother => haccepts.judge ?_⟩
    simp only [generateFiles, hmode]
    exact (hgenerated other hother).bind (Yields.pure _)
  | _ =>
    rcases judge_cases h with ⟨m, before, after, -, hfiles, -⟩ | ⟨hsame, -, -, hyields⟩
    · obtain ⟨files, hvalid⟩ := generateFiles_valid hfiles
      cases hvalid
    · exact ⟨admits_nil, hsame, fun other _ => hyields other⟩

/-- In a round without a duplicate factory every judgement stands, and all keys together
    are admitted. -/
theorem judgeAll_stands (hmode : r.mode = .generate) {cs : List Candidate}
    (hdone : (r.judgeAll t registry cs log).failure = none)
    (hquiet : ∀ d ∈ (r.judgeAll t registry cs log).log.records, ¬ d.ReportsDuplicate) :
    registry.Admits ((r.judgeAll t registry cs log).judged.flatMap (Judgement.keys t))
      ∧ ∀ j ∈ (r.judgeAll t registry cs log).judged, j.Stands r t := by
  induction cs generalizing registry log with
  | nil => exact ⟨admits_nil, fun j hj => nomatch hj⟩
  | cons c cs ih =>
    cases hrun : (r.judge t registry c).run.run log with
    | mk result after =>
      cases result with
      | error f => rw [judgeAll_error hrun] at hdone; cases hdone
      | ok judged =>
        obtain ⟨v, next⟩ := judged
        rw [judgeAll_ok hrun] at hdone hquiet ⊢
        have hlater := records_judgeAll r t next cs after
        obtain ⟨hadmits, rfl, hstands⟩ :=
          judge_stands hmode hrun fun d hd => hquiet d (hlater hd)
        obtain ⟨hrest, hstandsRest⟩ := ih hdone hquiet
        rw [List.flatMap_cons, admits_append]
        exact ⟨⟨hadmits, hrest⟩, List.forall_mem_cons.mpr ⟨hstands, hstandsRest⟩⟩

/-- Judgements that stand come out again when all their keys together are admitted. -/
theorem judgeAll_of_stands {js : List Judgement} (hstands : ∀ j ∈ js, j.Stands r t)
    (hadmits : registry.Admits (js.flatMap (Judgement.keys t))) (log : Log) :
    (r.judgeAll t registry (js.map Judgement.candidate) log).judged = js
      ∧ (r.judgeAll t registry (js.map Judgement.candidate) log).failure = none := by
  induction js generalizing registry log with
  | nil => exact ⟨rfl, rfl⟩
  | cons j js ih =>
    obtain ⟨hfirst, hrest⟩ := List.forall_mem_cons.mp hstands
    rw [List.flatMap_cons, admits_append] at hadmits
    obtain ⟨after, hrun⟩ := (hfirst registry hadmits.1).run log
    obtain ⟨hjudged, hfailure⟩ := ih hrest hadmits.2 after
    rw [List.map_cons, judgeAll_ok hrun]
    exact ⟨congrArg (List.cons j) hjudged, hfailure⟩

/-- The same candidates in another order get the same judgements, in that order. -/
theorem judgeAll_perm (hmode : r.mode = .generate) {t' : SymbolTable}
    (htable : t.functions = t'.functions) {cs cs' : List Candidate} (hcs : cs'.Perm cs)
    (hdone : (r.judgeAll t .empty cs log).failure = none)
    (hquiet : ∀ d ∈ (r.judgeAll t .empty cs log).log.records, ¬ d.ReportsDuplicate) (log' : Log) :
    (r.judgeAll t' .empty cs' log').judged.Perm (r.judgeAll t .empty cs log).judged
      ∧ (r.judgeAll t' .empty cs' log').failure = none := by
  obtain ⟨hadmits, hstands⟩ := judgeAll_stands hmode hdone hquiet
  have hcandidates := candidates_judgeAll hdone
  generalize (r.judgeAll t .empty cs log).judged = js at hadmits hstands hcandidates ⊢
  rw [← hcandidates] at hcs
  obtain ⟨js', hjs', hjs⟩ := exists_perm_of_map_perm hcs
  have hadmits' : empty.Admits (js'.flatMap (Judgement.keys t)) :=
    admits_empty.mpr ((hjs.flatMap_right _).nodup_iff.mpr hadmits.nodup)
  obtain ⟨hjudged, hfailure⟩ :=
    judgeAll_of_stands (fun j hj => hstands j (hjs.mem_iff.mp hj)) hadmits' log
  obtain ⟨hsame, hsameFailure⟩ := judgeAll_eq (r := r) htable .empty cs' log log'
  rw [← hsame, ← hsameFailure, ← hjs', hjudged]
  exact ⟨hjs, hfailure⟩

end RoundRules

/-! ### Rounds -/

namespace RoundOutput

variable {o o' : RoundOutput}

theorem names_perm (h : o'.judged.Perm o.judged) (select : Verdict → Bool) :
    (o'.names select).Perm (o.names select) :=
  (h.filter _).map _

theorem files_perm (h : o'.judged.Perm o.judged) : o'.files.Perm o.files :=
  h.flatMap_right _

end RoundOutput

namespace Processor

variable {p : Processor} {t t' : SymbolTable} {o : RoundOutput}

/-- A round that reports no duplicate factory does the same with the classes of its table
    in any other order. -/
theorem order_independent (hp : p.pending = []) (hclasses : t'.classes.Perm t.classes)
    (hfunctions : t'.functions = t.functions) (hrun : (p.process t).1.result = .ok o)
    (hquiet : ∀ d ∈ (p.process t).1.log.records, ¬ d.ReportsDuplicate) :
    ∃ o', (p.process t').1.result = .ok o' ∧ o'.files.Perm o.files ∧ o'.valid.Perm o.valid
      ∧ o'.dropped.Perm o.dropped ∧ o'.deferred.Perm o.deferred ∧ o'.skipped.Perm o.skipped := by
  obtain ⟨hdone, rfl⟩ := run_eq_ok.mp hrun
  have hcandidates : (roundCandidates t' p.pending).Perm (roundCandidates t p.pending) := by
    rw [hp, roundCandidates_nil, roundCandidates_nil]
    exact (hclasses.filter _).map _
  have hrecords : (p.process t).1.log.records = (p.judgements .generate t).log.records :=
    Log.records_finish _
  rw [hrecords] at hquiet
  obtain ⟨hperm, hfailure⟩ := RoundRules.judgeAll_perm rfl hfunctions.symm hcandidates hdone hquiet
    (.opened (roundName (p.rounds + 1)))
  refine ⟨_, run_eq_ok.mpr ⟨hfailure, rfl⟩, RoundOutput.files_perm hperm, ?_⟩
  exact ⟨RoundOutput.names_perm hperm _, RoundOutput.names_perm hperm _,
    RoundOutput.names_perm hperm _, RoundOutput.names_perm hperm _⟩

def mixed : SymbolTable :=
  ⟨[acceptedInterface, unboundInterface,
    .holding "Groups" [.getting "groups" [] (.named TypeName.string)], waitingInterface], []⟩

/-- Backwards, each interface has the same fate. -/
theorem order_independent_of_reverse :
    ∃ o o' : RoundOutput,
      ((start .default Check.all).process mixed).1.result = .ok o
      ∧ ((start .default Check.all).process ⟨mixed.classes.reverse, []⟩).1.result = .ok o'
      ∧ o.files.map SourceFile.path = ["_UsersImpl.kt", "_GroupsImpl.kt"]
      ∧ o'.files.Perm o.files ∧ o'.valid.Perm ["Users", "Groups"]
      ∧ o'.dropped.Perm ["Broken"] ∧ o'.deferred.Perm ["Waiting"] := by
  have hround : (((start .default Check.all).process mixed).1.result.toOption.any fun o =>
      o.files.map SourceFile.path = ["_UsersImpl.kt", "_GroupsImpl.kt"]
        ∧ o.valid = ["Users", "Groups"] ∧ o.dropped = ["Broken"]
        ∧ o.deferred = ["Waiting"]) = true := by
    decide +kernel
  have hwarnings : (((start .default Check.all).process mixed).1.log.records.all fun d =>
      d.severity != .warning) = true := by
    decide +kernel
  have hquiet : ∀ d ∈ ((start .default Check.all).process mixed).1.log.records,
      ¬ d.ReportsDuplicate := by
    rintro d hd ⟨kind, key, interface, hseverity, -⟩
    have hother := List.all_eq_true.mp hwarnings d hd
    rw [hseverity] at hother
    cases hother
  obtain ⟨o, hrun, hpaths, hvalid, hdropped, hdeferred⟩ := ok_of_any hround
  have hclasses : (⟨mixed.classes.reverse, []⟩ : SymbolTable).classes.Perm mixed.classes :=
    List.reverse_perm mixed.classes
  obtain ⟨o', hrun', hfiles', hvalid', hdropped', hdeferred', -⟩ :=
    order_independent rfl hclasses rfl hrun hquiet
  rw [hvalid] at hvalid'
  rw [hdropped] at hdropped'
  rw [hdeferred] at hdeferred'
  exact ⟨o, o', hrun, hrun', hpaths, hfiles', hvalid', hdropped', hdeferred'⟩

end Processor

end ClientGen
