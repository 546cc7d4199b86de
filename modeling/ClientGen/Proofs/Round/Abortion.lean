/-
  ClientGen/Proofs/Round/Abortion.lean
  ====================================
  **What still waits after a round was aborted.**

  A round takes everything that waits before it judges its first candidate, and puts back
  what it defers.  When a candidate fails, the candidates of the round fall into those that
  were judged before it, the one that failed and those that were not reached
  (`judgeAll_split`).  Only the judged ones can wait again: a pending declaration that was
  not reached waits no longer, and neither a later round nor the end of the build hears of
  it (`run_aborted`).
-/
import ClientGen.Proofs.Round.Deferral

namespace ClientGen

open ClientGen.Text

/-! ### Where judging stops -/

namespace RoundRules

variable {r : RoundRules} {t : SymbolTable} {registry : Client.FactoryRegistry}
  {cs : List Candidate} {log : Log} {f : Fatal}

/-- The candidates in front of the one that failed were judged, in order. -/
theorem judgeAll_split (h : (r.judgeAll t registry cs log).failure = some f) :
    ∃ c back, cs = (r.judgeAll t registry cs log).judged.map Judgement.candidate ++ c :: back
      ∧ ∃ registry log, ((r.judge t registry c).run.run log).1 = .error f := by
  induction cs generalizing registry log with
  | nil => cases h
  | cons c cs ih =>
    cases hrun : (r.judge t registry c).run.run log with
    | mk result after =>
      cases result with
      | error f' =>
        rw [judgeAll_error hrun] at h ⊢
        cases h
        exact ⟨c, cs, rfl, registry, log, by rw [hrun]⟩
      | ok judged =>
        rw [judgeAll_ok hrun] at h ⊢
        obtain ⟨c', back, hsplit, hfails⟩ := ih h
        exact ⟨c', back, congrArg (List.cons c) hsplit, hfails⟩

end RoundRules

/-! ### What is put back -/

theorem lookup_pendingAfter_of_not_mem {judged : List Judgement} {name : String}
    (h : name ∉ deferredNames judged) : (pendingAfter judged).lookup name = none := by
  rw [List.lookup_eq_none_iff]
  intro e he
  rw [bne_iff_ne]
  rintro rfl
  apply h
  rw [← Ascending.mem_ofNames, ← map_fst_pendingAfter]
  exact List.mem_map_of_mem he

/-! ### Aborted rounds -/

namespace Processor

variable {p : Processor} {mode : RoundMode} {t : SymbolTable} {f : Fatal}

/-- The round judged these candidates, failed at the next one and did not reach the rest. -/
structure AbortedAt (p : Processor) (mode : RoundMode) (t : SymbolTable) (f : Fatal)
    (judged : List Judgement) (c : Candidate) (back : List Candidate) : Prop where
  result : (p.run mode t).1.result = .error f
  candidates : roundCandidates t p.pending = judged.map Judgement.candidate ++ c :: back
  judged : judged = (p.judgements mode t).judged
  fails : ∃ registry log, (((p.rules mode).judge t registry c).run.run log).1 = .error f

theorem exists_abortedAt (hrun : (p.run mode t).1.result = .error f) :
    ∃ judged c back, AbortedAt p mode t f judged c back := by
  obtain ⟨c, back, hsplit, hfails⟩ := RoundRules.judgeAll_split (run_eq_error.mp hrun)
  exact ⟨_, c, back, hrun, hsplit, rfl, hfails⟩

/-- The names of the judged candidates stand in front of those of the others. -/
theorem AbortedAt.names {judged : List Judgement} {c : Candidate} {back : List Candidate}
    (h : AbortedAt p mode t f judged c back) :
    (roundCandidates t p.pending).map Candidate.name
      = judged.map (fun j => j.candidate.name) ++ (c :: back).map Candidate.name := by
  rw [h.candidates, List.map_append, List.map_map]
  rfl

theorem AbortedAt.pendingNames {judged : List Judgement} {c : Candidate} {back : List Candidate}
    (h : AbortedAt p mode t f judged c back) :
    (p.run mode t).2.pendingNames = Ascending.ofNames (deferredNames judged) := by
  rw [h.judged]
  exact map_fst_pendingAfter _

section Unrepeated

variable {judged : List Judgement} {c : Candidate} {back : List Candidate}
  {e : String × Candidate}

/-- What waits and is not declared again is a candidate of the round. -/
theorem AbortedAt.mem_candidates (h : AbortedAt p mode t f judged c back) (he : e ∈ p.pending)
    (hnew : e.1 ∉ t.candidateNames) : e.2 ∈ judged.map Judgement.candidate ++ c :: back := by
  rw [← h.candidates]
  refine List.mem_append_right _ (List.mem_map_of_mem ?_)
  rw [(takeDeclared_eq t.candidates p.pending).2, List.mem_filter, Bool.not_eq_true',
    Bool.eq_false_iff, ne_eq, List.contains_iff_mem]
  exact ⟨he, hnew⟩

/-- A name that is not declared stands once among the candidates, in front of the failure or
    behind it. -/
theorem AbortedAt.count_name_le (h : AbortedAt p mode t f judged c back) (hp : p.Reachable)
    {name : String} (hnew : name ∉ t.candidateNames) :
    (judged.map fun j => j.candidate.name).count name
      + ((c :: back).map Candidate.name).count name ≤ 1 := by
  rw [← List.count_append, ← h.names]
  apply count_roundCandidates hp.keyed
  rw [List.count_eq_zero.mpr hnew]
  exact Nat.zero_le 1

theorem AbortedAt.lookup_judged (h : AbortedAt p mode t f judged c back) (hp : p.Reachable)
    (hnew : e.1 ∉ t.candidateNames) (hname : e.2.name = e.1) {j : Judgement} (hj : j ∈ judged)
    (hcandidate : j.candidate = e.2) :
    (p.run mode t).2.pending.lookup e.1 = match j.verdict with
      | .deferred => some e.2.defer
      | _ => none := by
  have honce := h.count_name_le hp hnew
  have hown : ∀ i ∈ judged, i.candidate.name = e.1 → i = j := fun i hi hi' =>
    eq_of_count_map_le_one (f := fun j => j.candidate.name) (by omega) hi hj hi'
      (by rw [hcandidate, hname])
  have hpending : (p.run mode t).2.pending = pendingAfter judged := by
    rw [h.judged]
    rfl
  rw [hpending]
  by_cases hdeferred : e.1 ∈ deferredNames judged
  · obtain ⟨i, hi, hv, hi', hlookup⟩ := lookup_pendingAfter hdeferred
    rw [hown i hi hi'] at hv hlookup
    rw [hlookup, hv, hcandidate]
  · rw [lookup_pendingAfter_of_not_mem hdeferred]
    split
    · rename_i hv
      exact (hdeferred (mem_deferredNames.mpr ⟨j, hj, hv, by rw [hcandidate, hname]⟩)).elim
    · rfl

/-- Only what was judged can be put back. -/
theorem AbortedAt.not_mem_pendingNames (h : AbortedAt p mode t f judged c back)
    (hp : p.Reachable) (hnew : e.1 ∉ t.candidateNames) (hname : e.2.name = e.1)
    (hbehind : e.2 ∈ c :: back) : e.1 ∉ (p.run mode t).2.pendingNames := by
  rw [h.pendingNames, Ascending.mem_ofNames]
  intro hdeferred
  obtain ⟨j, hj, -, hj'⟩ := mem_deferredNames.mp hdeferred
  have honce := h.count_name_le hp hnew
  have hfront : 0 < (judged.map fun j => j.candidate.name).count e.1 :=
    List.count_pos_iff.mpr (List.mem_map.mpr ⟨j, hj, hj'⟩)
  have hback : 0 < ((c :: back).map Candidate.name).count e.1 :=
    List.count_pos_iff.mpr (List.mem_map.mpr ⟨e.2, hbehind, hname⟩)
  omega

end Unrepeated

/-- What becomes of a pending declaration in an aborted round whose table does not repeat it. -/
structure Resumed (p' : Processor) (judged : List Judgement) (c : Candidate)
    (back : List Candidate) (e : String × Candidate) : Prop where
  /-- It was judged, it failed, or it was not reached. -/
  place : (∃ j ∈ judged, j.candidate = e.2) ∨ e.2 = c ∨ e.2 ∈ back
  /-- One that was judged waits when it was deferred, with one more deferral. -/
  judged : ∀ j ∈ judged, j.candidate = e.2 →
    p'.pending.lookup e.1 = match j.verdict with
      | .deferred => some e.2.defer
      | _ => none
  /-- One that failed does not wait, and neither does one that was not reached. -/
  unjudged : e.2 = c ∨ e.2 ∈ back → e.1 ∉ p'.pendingNames

/-- Of what waited before an aborted round and is not declared again, only what was judged and
    deferred still waits; what was not reached is lost. -/
theorem run_aborted (hp : p.Reachable) (hrun : (p.run mode t).1.result = .error f) :
    ∃ judged c back, AbortedAt p mode t f judged c back
      ∧ ∀ e ∈ p.pending, e.1 ∉ t.candidateNames →
        Resumed (p.run mode t).2 judged c back e := by
  obtain ⟨judged, c, back, habort⟩ := exists_abortedAt hrun
  refine ⟨judged, c, back, habort, fun e he hnew => ?_⟩
  have hname : e.2.name = e.1 := hp.keyed.own e he
  refine ⟨?_, ?_, ?_⟩
  · rcases List.mem_append.mp (habort.mem_candidates he hnew) with hfront | hback
    · obtain ⟨j, hj, hcandidate⟩ := List.mem_map.mp hfront
      exact .inl ⟨j, hj, hcandidate⟩
    · exact .inr (List.mem_cons.mp hback)
  · intro j hj hcandidate
    exact habort.lookup_judged hp hnew hname hj hcandidate
  · intro hbehind
    exact habort.not_mem_pendingNames hp hnew hname (List.mem_cons.mpr hbehind)

def expectedInterface : ClassDeclaration :=
  { acceptedInterface with modifiers := [.expect] }

def ending : SymbolTable :=
  ⟨[expectedInterface], []⟩

/-- The round over this table judges nothing, and what waits stands behind the failure. -/
theorem back_of_ending {judged : List Judgement} {c : Candidate} {back : List Candidate}
    (h : AbortedAt waiting .generate ending f judged c back) :
    judged = [] ∧ back = waiting.pending.map Prod.snd := by
  have hnone : judged = [] := by
    rw [h.judged]
    exact List.isEmpty_iff.mp (by decide +kernel)
  have hcandidates : roundCandidates ending waiting.pending
      = ⟨expectedInterface, 0⟩ :: waiting.pending.map Prod.snd := by
    rfl
  have hsplit := h.candidates
  rw [hcandidates, hnone] at hsplit
  exact ⟨hnone, (List.cons.inj hsplit).2.symm⟩

theorem ending_aborts : ∃ f, (waiting.run .generate ending).1.result = .error f := by
  have hfails : (waiting.run .generate ending).1.failure?.isSome = true := by decide +kernel
  obtain ⟨f, hf⟩ := Option.isSome_iff_exists.mp hfails
  unfold Outcome.failure? at hf
  split at hf
  · cases hf
  · rename_i g hresult
    exact ⟨g, hresult⟩

/-- What waits in front of the table that ends its round. -/
theorem exists_waiting : ∃ e ∈ waiting.pending, e.1 = "Waiting" ∧ e.1 ∉ ending.candidateNames := by
  have hname : "Waiting" ∈ waiting.pending.map Prod.fst := by decide +kernel
  obtain ⟨e, he, hwaits⟩ := List.mem_map.mp hname
  refine ⟨e, he, hwaits, ?_⟩
  rw [hwaits]
  decide +kernel

/-- An interface that waits is lost when another one ends its round, and the end of the build
    does not tell of it. -/
theorem run_aborted_of_waiting :
    "Waiting" ∈ waiting.pendingNames ∧ "Waiting" ∉ ending.candidateNames
      ∧ ∃ f, (waiting.process ending).1.result = .error f
        ∧ "Waiting" ∉ (waiting.process ending).2.pendingNames
        ∧ (waiting.process ending).2.finish.1.failure? = none := by
  obtain ⟨f, hresult⟩ := ending_aborts
  obtain ⟨judged, c, back, habort, hresumed⟩ := run_aborted waiting_reachable hresult
  obtain ⟨e, he, hwaits, hnew⟩ := exists_waiting
  rw [← hwaits]
  refine ⟨List.mem_map_of_mem he, hnew, f, hresult, ?_, ?_⟩
  · apply (hresumed e he hnew).unjudged
    rw [(back_of_ending habort).2]
    exact .inr (List.mem_map_of_mem he)
  · exact Option.isNone_iff_eq_none.mp (by decide +kernel)

/-- What a round did not reach need not wait for the next one. -/
theorem unreached_may_be_lost : ¬ ∀ (p : Processor) (mode : RoundMode) (t : SymbolTable)
    (f : Fatal) (judged : List Judgement) (c : Candidate) (back : List Candidate),
    p.Reachable → AbortedAt p mode t f judged c back → ∀ e ∈ p.pending, e.1 ∉ t.candidateNames →
      e.2 ∈ back → (p.run mode t).2.pending.lookup e.1 = some e.2 := by
  intro hall
  obtain ⟨f, hresult⟩ := ending_aborts
  obtain ⟨judged, c, back, habort⟩ := exists_abortedAt hresult
  obtain ⟨e, he, -, hnew⟩ := exists_waiting
  have hback : e.2 ∈ back := by
    rw [(back_of_ending habort).2]
    exact List.mem_map_of_mem he
  have hkept := hall _ _ _ _ _ _ _ waiting_reachable habort e he hnew hback
  have hempty : (waiting.run .generate ending).2.pending = [] :=
    List.isEmpty_iff.mp (by decide +kernel)
  rw [hempty] at hkept
  cases hkept

end Processor

end ClientGen
