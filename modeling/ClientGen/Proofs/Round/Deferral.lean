/-
  ClientGen/Proofs/Round/Deferral.lean
  ====================================
  **How long an interface may wait.**

  A deferred declaration goes on with its number of deferrals, whether a table repeats it
  or not, as long as no table holds two candidates of its name
  (`deferrals_of_mem`).  A round that succeeds and defers the name adds one to the number,
  which the settings bound (`run_deferrals`); so the rounds that defer it one after the
  other are bounded, by induction on them.  With two candidates of one name the second
  starts over, and both may wait longer (`waiting_may_go_on`).
-/
import ClientGen.Proofs.Round.Accounting
import Mathlib.Data.List.Induction

namespace ClientGen

open ClientGen.Text

/-! ### Numbers of deferrals -/

theorem Pending.deferrals_eq {pending : Pending} {name : String} {c : Candidate}
    (h : pending.lookup name = some c) : pending.deferrals name = c.deferrals := by
  rw [Pending.deferrals, h]

theorem Pending.deferrals_erase {pending : Pending} {name other : String} (h : name ≠ other) :
    Pending.deferrals (Ascending.erase other pending) name = pending.deferrals name := by
  rw [Pending.deferrals, Pending.deferrals, Ascending.lookup_erase_of_ne h]

/-- What waits is found under its name. -/
theorem Pending.Keyed.lookup {pending : Pending} (h : pending.Keyed) {e : String × Candidate}
    (he : e ∈ pending) : pending.lookup e.2.name = some e.2 := by
  rw [h.own e he]
  exact Ascending.lookup_of_mem h.strict he

/-- The only candidate of a name in a table goes on with the number of the name. -/
theorem deferrals_takeDeclared {name : String} {cs : List ClassDeclaration} {pending : Pending}
    (honce : (cs.map ClassDeclaration.qualifiedName).count name ≤ 1) {c : Candidate}
    (hc : c ∈ (takeDeclared cs pending).1) (hname : c.name = name) :
    c.deferrals = pending.deferrals name := by
  induction cs generalizing pending with
  | nil => cases hc
  | cons d cs ih =>
    rw [List.map_cons, List.count_cons] at honce
    rcases List.mem_cons.mp hc with rfl | hrest
    · exact congrArg pending.deferrals hname
    · by_cases hsame : d.qualifiedName = name
      · -- A second declaration of the name would stand behind the first.
        have hmem : name ∈ cs.map ClassDeclaration.qualifiedName := by
          rw [← hname, ← (takeDeclared_eq cs _).1, List.map_map]
          exact List.mem_map_of_mem hrest
        have hpos := List.count_pos_iff.mpr hmem
        rw [hsame, beq_self_eq_true, if_pos rfl] at honce
        omega
      · rw [ih (by omega) hrest, Pending.deferrals_erase (Ne.symm hsame)]

/-- Every candidate of the name goes on with the number of the name. -/
theorem deferrals_of_mem {t : SymbolTable} {pending : Pending} {name : String}
    (hkeyed : pending.Keyed) (honce : t.candidateNames.count name ≤ 1) {c : Candidate}
    (hc : c ∈ roundCandidates t pending) (hname : c.name = name) :
    c.deferrals = pending.deferrals name := by
  rcases List.mem_append.mp hc with hdeclared | hleft
  · exact deferrals_takeDeclared honce hdeclared hname
  · obtain ⟨e, he, rfl⟩ := List.mem_map.mp hleft
    rw [(takeDeclared_eq t.candidates pending).2] at he
    rw [← hname]
    exact (Pending.deferrals_eq (hkeyed.lookup (List.mem_filter.mp he).1)).symm

theorem Pending.deferrals_le {pending : Pending} {n : Nat} (h : ∀ e ∈ pending, e.2.deferrals ≤ n)
    (name : String) : pending.deferrals name ≤ n := by
  unfold Pending.deferrals
  split
  · rename_i c hlookup
    obtain ⟨front, back, rfl, -⟩ := List.lookup_eq_some_iff.mp hlookup
    exact h (name, c) (List.mem_append_right _ List.mem_cons_self)
  · exact Nat.zero_le n

/-- No candidate of a round was deferred more often than what waits. -/
theorem deferrals_le_of_mem {t : SymbolTable} {pending : Pending} {n : Nat}
    (h : ∀ e ∈ pending, e.2.deferrals ≤ n) {c : Candidate} (hc : c ∈ roundCandidates t pending) :
    c.deferrals ≤ n := by
  have hdeclared : ∀ (cs : List ClassDeclaration) {pending : Pending},
      (∀ e ∈ pending, e.2.deferrals ≤ n) → ∀ c ∈ (takeDeclared cs pending).1, c.deferrals ≤ n := by
    intro cs
    induction cs with
    | nil => exact fun _ c hc => nomatch hc
    | cons d cs ih =>
      intro pending h
      rw [takeDeclared, List.forall_mem_cons]
      exact ⟨Pending.deferrals_le h _, ih fun e he => h e (List.mem_filter.mp he).1⟩
  rcases List.mem_append.mp hc with hc | hleft
  · exact hdeclared t.candidates h c hc
  · obtain ⟨e, he, rfl⟩ := List.mem_map.mp hleft
    rw [(takeDeclared_eq t.candidates pending).2] at he
    exact h e (List.mem_filter.mp he).1

/-- A name that waits is looked at again, whether the table repeats it or not. -/
theorem exists_candidate {t : SymbolTable} {pending : Pending} {name : String}
    (hkeyed : pending.Keyed) (hname : name ∈ pending.map Prod.fst) :
    ∃ c ∈ roundCandidates t pending, c.name = name := by
  have hmem : name ∈ ((roundCandidates t pending).map Candidate.declaration).map
      ClassDeclaration.qualifiedName := by
    rw [declarations_roundCandidates, List.map_append, List.mem_append]
    by_cases hdeclared : name ∈ t.candidateNames
    · exact .inl hdeclared
    · obtain ⟨e, he, rfl⟩ := List.mem_map.mp hname
      refine .inr (List.mem_map.mpr ⟨e.2.declaration, List.mem_map_of_mem ?_, hkeyed.own e he⟩)
      rw [List.mem_filter, Bool.not_eq_true', Bool.eq_false_iff, ne_eq, List.contains_iff_mem]
      exact ⟨he, hdeclared⟩
  obtain ⟨d, hd, rfl⟩ := List.mem_map.mp hmem
  obtain ⟨c, hc, rfl⟩ := List.mem_map.mp hd
  exact ⟨c, hc, rfl⟩

/-- A round has no more candidates of a name than its table, or the one that waits. -/
theorem count_roundCandidates {t : SymbolTable} {pending : Pending} {name : String}
    (hkeyed : pending.Keyed) (honce : t.candidateNames.count name ≤ 1) :
    ((roundCandidates t pending).map Candidate.name).count name ≤ 1 := by
  have hnames : (roundCandidates t pending).map Candidate.name = t.candidateNames
      ++ (pending.filter fun e => !t.candidateNames.contains e.1).map Prod.fst := by
    have hsplit := congrArg (List.map ClassDeclaration.qualifiedName)
      (declarations_roundCandidates t pending)
    rw [List.map_map, List.map_append, List.map_map] at hsplit
    refine hsplit.trans (congrArg _ (List.map_congr_left fun e he => ?_))
    exact hkeyed.own e (List.mem_filter.mp he).1
  rw [hnames, List.count_append]
  by_cases hdeclared : name ∈ t.candidateNames
  · have hleft : name ∉ (pending.filter fun e => !t.candidateNames.contains e.1).map Prod.fst := by
      intro hmem
      obtain ⟨e, he, rfl⟩ := List.mem_map.mp hmem
      have hnew := (List.mem_filter.mp he).2
      rw [List.contains_iff_mem.mpr hdeclared] at hnew
      cases hnew
    rw [List.count_eq_zero.mpr hleft]
    exact honce
  · rw [List.count_eq_zero.mpr hdeclared, Nat.zero_add]
    apply List.nodup_iff_count_le_one.mp
    exact hkeyed.strict.nodup.sublist (List.filter_sublist.map _)

/-- A name that stands once in a list names one element. -/
theorem eq_of_count_map_le_one {α : Type} {f : α → String} {name : String} {xs : List α}
    (honce : (xs.map f).count name ≤ 1) {x y : α} (hx : x ∈ xs) (hy : y ∈ xs) (hfx : f x = name)
    (hfy : f y = name) : x = y := by
  induction xs with
  | nil => cases hx
  | cons z xs ih =>
    rw [List.map_cons, List.count_cons] at honce
    have hbehind : ∀ {w : α}, w ∈ xs → f w = name → f z ≠ name := by
      intro w hw hfw hfz
      have hpos := List.count_pos_iff.mpr (hfw ▸ List.mem_map_of_mem hw : name ∈ xs.map f)
      rw [hfz, beq_self_eq_true, if_pos rfl] at honce
      omega
    rcases List.mem_cons.mp hx with rfl | hx'
    · rcases List.mem_cons.mp hy with rfl | hy'
      · rfl
      · exact (hbehind hy' hfy hfx).elim
    · rcases List.mem_cons.mp hy with rfl | hy'
      · exact (hbehind hx' hfx hfy).elim
      · exact ih (by omega) hx' hy'

theorem pendingAfter_concat (judged : List Judgement) (j : Judgement) :
    pendingAfter (judged ++ [j]) = match j.verdict with
      | .deferred => Ascending.put j.candidate.name j.candidate.defer (pendingAfter judged)
      | _ => pendingAfter judged := by
  rw [pendingAfter, List.foldl_append]
  rfl

/-- What waits after a round is a candidate that it deferred. -/
theorem mem_pendingAfter {judged : List Judgement} {e : String × Candidate}
    (he : e ∈ pendingAfter judged) :
    ∃ j ∈ judged, j.verdict = .deferred ∧ e = (j.candidate.name, j.candidate.defer) := by
  induction judged using List.reverseRecOn with
  | nil => cases he
  | append_singleton judged j ih =>
    have hearlier : e ∈ pendingAfter judged → ∃ i ∈ judged ++ [j], i.verdict = .deferred
        ∧ e = (i.candidate.name, i.candidate.defer) := by
      intro he
      obtain ⟨i, hi, hdeferred⟩ := ih he
      exact ⟨i, List.mem_append_left _ hi, hdeferred⟩
    rw [pendingAfter_concat] at he
    cases hv : j.verdict with
    | deferred =>
      simp only [hv] at he
      rcases Ascending.mem_put he with hlast | he
      · exact ⟨j, List.mem_append_right _ (List.mem_singleton_self j), hv, hlast⟩
      · exact hearlier he
    | _ =>
      simp only [hv] at he
      exact hearlier he

/-- A deferred name waits as its last deferred candidate. -/
theorem lookup_pendingAfter {name : String} {judged : List Judgement}
    (h : name ∈ deferredNames judged) :
    ∃ j ∈ judged, j.verdict = .deferred ∧ j.candidate.name = name
      ∧ (pendingAfter judged).lookup name = some j.candidate.defer := by
  induction judged using List.reverseRecOn with
  | nil => cases h
  | append_singleton judged j ih =>
    rw [deferredNames, List.filter_append, List.map_append, List.mem_append] at h
    rw [pendingAfter_concat]
    cases hv : j.verdict with
    | deferred =>
      by_cases hname : j.candidate.name = name
      · refine ⟨j, List.mem_append_right _ (List.mem_singleton_self j), hv, hname, ?_⟩
        rw [hname]
        exact Ascending.lookup_put_self
      · have hearlier : name ∈ deferredNames judged := by
          refine h.resolve_right fun hlast => hname ?_
          rw [List.filter_cons_of_pos (by rw [hv]), List.filter_nil, List.map_singleton,
            List.mem_singleton] at hlast
          exact hlast.symm
        obtain ⟨i, hi, hdeferred, hi', hlookup⟩ := ih hearlier
        refine ⟨i, List.mem_append_left _ hi, hdeferred, hi', ?_⟩
        simp only
        rw [Ascending.lookup_put_of_ne (Ne.symm hname), hlookup]
    | _ =>
      have hearlier : name ∈ deferredNames judged := by
        refine h.resolve_right fun hlast => ?_
        rw [List.filter_cons_of_neg (by rw [hv]; exact Bool.false_ne_true)] at hlast
        cases hlast
      obtain ⟨i, hi, hdeferred, hi', hlookup⟩ := ih hearlier
      exact ⟨i, List.mem_append_left _ hi, hdeferred, hi', hlookup⟩

/-! ### One candidate -/

/-- The failure of a declaration that waited long enough. -/
def unresolvedFailure (name : String) (names : List String) : Fatal :=
  .dying (trim (Problem.unresolvedSymbols names).message) (some name)

namespace RoundRules

variable {r : RoundRules} {t : SymbolTable} {registry registry' : Client.FactoryRegistry}
  {c : Candidate} {log log' : Log}

/-- A candidate is deferred only as often as the settings say. -/
theorem deferrals_of_judge
    (h : (r.judge t registry c).run.run log = (.ok (.deferred, registry'), log')) :
    c.deferrals + 1 ≤ r.options.maxDeferredRounds := by
  rcases judge_cases h with ⟨m, before, after, -, hfiles, -⟩ | ⟨-, -, hroom, -⟩
  · obtain ⟨files, hvalid⟩ := generateFiles_valid hfiles
    cases hvalid
  · exact hroom rfl

/-- An unresolved candidate without deferrals left is a failure. -/
theorem judge_fails {names : List String} {log₀ : Log}
    (hextract : ((c.declaration.extract (t.factoriesOf c.name)).run.run log₀).1
      = .ok (.deferred names))
    (hspent : r.options.maxDeferredRounds < c.deferrals + 1) (registry : Client.FactoryRegistry)
    (log : Log) :
    ((r.judge t registry c).run.run log).1 = .error (unresolvedFailure c.name names) := by
  have hdoes := c.declaration.extract_does (t.factoriesOf c.name)
  have hending := Ending.eq_returns_of_result ((hdoes.result_eq log₀).symm.trans hextract)
  obtain ⟨conduct, hconduct⟩ : ∃ conduct, c.declaration.conduct (t.factoriesOf c.name) = conduct :=
    ⟨_, rfl⟩
  obtain ⟨ending, happenings⟩ := conduct
  rw [hconduct] at hdoes hending
  simp only at hending
  subst hending
  have hdies : Does (r.judgeExtraction registry c (.deferred names))
      (.die (Problem.unresolvedSymbols names).message (some c.name)) := by
    simp only [judgeExtraction, judgeUnresolved, if_pos hspent]
    exact Does.die _ _
  exact ((hdoes.followed hdies rfl).task _).result_eq log

/-- Where one candidate fails in any case, judging ends with a failure: its own, or that of
    another candidate. -/
theorem judgeAll_fails {f : Fatal} {cs : List Candidate} (hc : c ∈ cs)
    (hfails : ∀ registry log, ((r.judge t registry c).run.run log).1 = .error f)
    (registry : Client.FactoryRegistry) (log : Log) :
    ∃ f', (r.judgeAll t registry cs log).failure = some f'
      ∧ (f' = f ∨ ∃ d ∈ cs, d ≠ c
          ∧ ∃ registry log, ((r.judge t registry d).run.run log).1 = .error f') := by
  induction cs generalizing registry log with
  | nil => cases hc
  | cons d cs ih =>
    cases hrun : (r.judge t registry d).run.run log with
    | mk result after =>
      cases result with
      | error f' =>
        refine ⟨f', by rw [judgeAll_error hrun], ?_⟩
        by_cases hsame : d = c
        · left
          have hown := hfails registry log
          rw [← hsame, hrun] at hown
          cases hown
          rfl
        · exact .inr ⟨d, List.mem_cons_self, hsame, registry, log, by rw [hrun]⟩
      | ok judged =>
        have hrest : c ∈ cs := by
          refine (List.mem_cons.mp hc).resolve_left fun hsame => ?_
          have hown := hfails registry log
          rw [hsame, hrun] at hown
          cases hown
        obtain ⟨f', hfailure, hwhose⟩ := ih hrest judged.2 after
        refine ⟨f', by rw [judgeAll_ok hrun, hfailure], ?_⟩
        refine hwhose.imp_right fun ⟨d', hd', hother⟩ => ?_
        exact ⟨d', List.mem_cons_of_mem _ hd', hother⟩

end RoundRules

/-! ### Rounds -/

namespace Processor

variable {p p' : Processor} {mode : RoundMode} {t : SymbolTable} {o : RoundOutput}
  {name : String}

/-- After a round that succeeds the deferred names wait. -/
theorem pendingNames_run (hrun : (p.run mode t).1.result = .ok o) :
    (p.run mode t).2.pendingNames = Ascending.ofNames o.deferred := by
  rw [run_after hrun]
  exact map_fst_pendingAfter o.judged

/-- A round that defers a name adds one to its number, which the settings bound. -/
theorem run_deferrals (hp : p.Reachable) (honce : t.candidateNames.count name ≤ 1)
    (hrun : (p.run mode t).1.result = .ok o) (hname : name ∈ o.deferred) :
    (p.run mode t).2.pending.deferrals name = p.pending.deferrals name + 1
      ∧ p.pending.deferrals name + 1 ≤ p.options.maxDeferredRounds := by
  have hafter := run_after hrun
  obtain ⟨hdone, rfl⟩ := run_eq_ok.mp hrun
  have hcandidates := RoundRules.candidates_judgeAll hdone
  obtain ⟨j, hj, hv, hown, hlookup⟩ := lookup_pendingAfter hname
  have hnumber : j.candidate.deferrals = p.pending.deferrals name := by
    refine deferrals_of_mem hp.keyed honce ?_ hown
    rw [← hcandidates]
    exact List.mem_map_of_mem hj
  constructor
  · rw [hafter, Pending.deferrals_eq hlookup, ← hnumber]
    rfl
  · obtain ⟨registry, log, registry', log', hjudge, -⟩ := RoundRules.exists_judge hj
    rw [hv] at hjudge
    rw [← hnumber]
    exact RoundRules.deferrals_of_judge hjudge

/-- What waits was deferred, and no more often than the settings say. -/
theorem Reachable.deferrals_bounded (hp : p.Reachable) : ∀ e ∈ p.pending,
    1 ≤ e.2.deferrals ∧ e.2.deferrals ≤ p.options.maxDeferredRounds := by
  induction hp with
  | start options checks => exact fun e he => nomatch he
  | finish hp ih => exact fun e he => nomatch he
  | round mode t hp ih =>
    intro e he
    obtain ⟨j, hj, hv, rfl⟩ := mem_pendingAfter he
    obtain ⟨registry, log, registry', log', hjudge, -⟩ := RoundRules.exists_judge hj
    rw [hv] at hjudge
    exact ⟨Nat.le_add_left 1 _, RoundRules.deferrals_of_judge hjudge⟩

-- Counts are kept without a bound; this is why 32 bits hold every number that judging compares,
-- unless the settings ask for the largest one.
theorem Reachable.deferrals_fit (hp : p.Reachable)
    (hbudget : p.options.maxDeferredRounds < 2 ^ 32 - 1) {c : Candidate}
    (hc : c ∈ roundCandidates t p.pending) : c.deferrals + 1 < 2 ^ 32 := by
  have hle := deferrals_le_of_mem (fun e he => (hp.deferrals_bounded e he).2) hc
  omega

/-- Rounds one after the other, from one processor to another, each of which succeeds and
    defers the name. -/
inductive DefersThrough (name : String) :
    Processor → List (RoundMode × SymbolTable) → Processor → Prop
  | nil (p : Processor) : DefersThrough name p [] p
  | cons {p p' : Processor} {mode : RoundMode} {t : SymbolTable} {o : RoundOutput}
      {rounds : List (RoundMode × SymbolTable)} (hrun : (p.run mode t).1.result = .ok o)
      (hname : name ∈ o.deferred) (h : DefersThrough name (p.run mode t).2 rounds p') :
      DefersThrough name p ((mode, t) :: rounds) p'

/-- What a processor is after rounds that deferred the name. -/
structure Waited (name : String) (p p' : Processor) (rounds : Nat) : Prop where
  reachable : p'.Reachable
  options : p'.options = p.options
  deferrals : p'.pending.deferrals name = p.pending.deferrals name + rounds
  bounded : rounds ≠ 0 → p'.pending.deferrals name ≤ p.options.maxDeferredRounds
  pending : rounds ≠ 0 → name ∈ p'.pendingNames

theorem DefersThrough.waited {rounds : List (RoundMode × SymbolTable)}
    (h : DefersThrough name p rounds p') (hp : p.Reachable)
    (honce : ∀ r ∈ rounds, r.2.candidateNames.count name ≤ 1) :
    Waited name p p' rounds.length := by
  induction h with
  | nil p => exact ⟨hp, rfl, rfl, fun h => (h rfl).elim, fun h => (h rfl).elim⟩
  | @cons p p' mode t o rounds hrun hname h ih =>
    obtain ⟨hfirst, hrest⟩ := List.forall_mem_cons.mp honce
    obtain ⟨hstep, hroom⟩ := run_deferrals hp hfirst hrun hname
    have hwaited := ih (.round mode t hp) hrest
    have hcount : p'.pending.deferrals name
        = p.pending.deferrals name + (rounds.length + 1) := by
      rw [hwaited.deferrals, hstep, Nat.add_assoc, Nat.add_comm 1]
    refine ⟨hwaited.reachable, hwaited.options, hcount, fun _ => ?_, fun _ => ?_⟩
    · by_cases hlast : rounds.length = 0
      · rw [hcount, hlast]
        exact hroom
      · exact hwaited.bounded hlast
    · cases h with
      | nil =>
        rw [pendingNames_run hrun]
        exact Ascending.mem_ofNames.mpr hname
      | cons hrun' hname' h' => exact hwaited.pending (Nat.succ_ne_zero _)

/-- An unresolved candidate without deferrals left ends its round: with its own failure,
    unless another candidate failed before. -/
theorem run_fails (hp : p.Reachable) (honce : t.candidateNames.count name ≤ 1)
    (hspent : p.options.maxDeferredRounds ≤ p.pending.deferrals name) {c : Candidate}
    (hc : c ∈ roundCandidates t p.pending) (hname : c.name = name) {names : List String}
    {log : Log} (hextract : ((c.declaration.extract (t.factoriesOf name)).run.run log).1
      = .ok (.deferred names)) :
    ∃ f, (p.run mode t).1.result = .error f
      ∧ (f = unresolvedFailure name names
        ∨ ∃ d ∈ roundCandidates t p.pending, d.name ≠ name
          ∧ ∃ registry log, (((p.rules mode).judge t registry d).run.run log).1 = .error f) := by
  have hnumber := deferrals_of_mem hp.keyed honce hc hname
  have hspent' : (p.rules mode).options.maxDeferredRounds < c.deferrals + 1 := by
    rw [hnumber]
    exact Nat.lt_succ_of_le hspent
  rw [← hname] at hextract
  obtain ⟨f, hfailure, hwhose⟩ := RoundRules.judgeAll_fails hc
    (RoundRules.judge_fails hextract hspent') .empty (.opened (roundName (p.rounds + 1)))
  refine ⟨f, ?_, ?_⟩
  · exact run_eq_error.mpr hfailure
  · rw [hname] at hwhose
    refine hwhose.imp_right fun ⟨d, hd, hother, hfails⟩ => ⟨d, hd, fun hsame => hother ?_, hfails⟩
    exact eq_of_count_map_le_one (count_roundCandidates hp.keyed honce) hd hc hsame hname

/-- Rounds that defer a name one after the other are no more than the settings say, as long
    as no table holds two candidates of the name.  Until then the name is looked at in every
    round, whether the table repeats it or not, and in the round after the last deferral an
    unresolved declaration is a failure. -/
theorem waiting_bounded (hp : p.Reachable) {rounds : List (RoundMode × SymbolTable)}
    (h : DefersThrough name p rounds p')
    (honce : ∀ r ∈ rounds, r.2.candidateNames.count name ≤ 1) :
    rounds.length ≤ p.options.maxDeferredRounds
      ∧ (rounds ≠ [] → ∀ t, ∃ c ∈ roundCandidates t p'.pending, c.name = name)
      ∧ (rounds.length = p.options.maxDeferredRounds → ∀ mode t c names log,
          t.candidateNames.count name ≤ 1 → c ∈ roundCandidates t p'.pending → c.name = name →
            ((c.declaration.extract (t.factoriesOf name)).run.run log).1
              = .ok (.deferred names) →
            ∃ f, (p'.run mode t).1.result = .error f
              ∧ (f = unresolvedFailure name names
                ∨ ∃ d ∈ roundCandidates t p'.pending, d.name ≠ name
                  ∧ ∃ registry log,
                    (((p'.rules mode).judge t registry d).run.run log).1 = .error f)) := by
  have hwaited := h.waited hp honce
  refine ⟨?_, ?_, ?_⟩
  · by_cases hnone : rounds.length = 0
    · omega
    · have hbounded := hwaited.bounded hnone
      rw [hwaited.deferrals] at hbounded
      omega
  · intro hsome t
    apply exists_candidate hwaited.reachable.keyed
    exact hwaited.pending fun hnone => hsome (List.length_eq_zero_iff.mp hnone)
  · intro hall mode t c names log honce hc hname hextract
    refine run_fails hwaited.reachable honce ?_ hc hname hextract
    rw [hwaited.options, hwaited.deferrals]
    omega

/-- A processor that defers a name only so often. -/
def waitingAtMost (rounds : Nat) : Processor :=
  .start { Options.default with maxDeferredRounds := rounds } Check.all

theorem DefersThrough.cons_of_any {rounds : List (RoundMode × SymbolTable)}
    (hany : ((p.run mode t).1.result.toOption.any fun o => name ∈ o.deferred) = true)
    (h : DefersThrough name (p.run mode t).2 rounds p') :
    DefersThrough name p ((mode, t) :: rounds) p' := by
  obtain ⟨o, hrun, hname⟩ := ok_of_any hany
  exact .cons hrun hname h

/-- The candidate waits for these names. -/
def isDeferral (names : List String) : Except Fatal Extraction → Bool
  | .ok (.deferred waiting) => waiting = names
  | _ => false

/-- An interface that may wait for one round ends the second one, which does not hold it. -/
theorem waiting_bounded_of_once :
    ∃ p', DefersThrough "Waiting" (waitingAtMost 1) [(.generate, ⟨[waitingInterface], []⟩)] p'
      ∧ (p'.process ⟨[], []⟩).1.result = .error (unresolvedFailure "Waiting" ["User"]) := by
  have hdefers : DefersThrough "Waiting" (waitingAtMost 1)
      [(.generate, ⟨[waitingInterface], []⟩)] _ :=
    .cons_of_any (by decide +kernel) (.nil _)
  obtain ⟨-, hlooked, hfails⟩ :=
    waiting_bounded (.start _ _) hdefers (by decide +kernel)
  obtain ⟨c, hc, hname⟩ := hlooked (List.cons_ne_nil _ _) ⟨[], []⟩
  have hcandidates : ((roundCandidates ⟨[], []⟩
      ((waitingAtMost 1).run .generate ⟨[waitingInterface], []⟩).2.pending).all fun c =>
        c.name = "Waiting"
          && isDeferral ["User"] ((c.declaration.extract []).run.run (.opened "")).1) = true := by
    decide +kernel
  have hall := List.all_eq_true.mp hcandidates
  have hextract : ((c.declaration.extract []).run.run (.opened "")).1
      = .ok (.deferred ["User"]) := by
    have hone := (Bool.and_eq_true_iff.mp (hall c hc)).2
    unfold isDeferral at hone
    split at hone
    · rename_i names hnames
      rw [hnames, of_decide_eq_true hone]
    · cases hone
  refine ⟨_, hdefers, ?_⟩
  obtain ⟨f, hresult, hown | ⟨d, hd, hother, -⟩⟩ :=
    hfails rfl .generate ⟨[], []⟩ c ["User"] _ (by decide) hc hname hextract
  · exact hresult.trans (congrArg _ hown)
  · exact (hother (of_decide_eq_true (Bool.and_eq_true_iff.mp (hall d hd)).1)).elim

def twice : SymbolTable :=
  ⟨[waitingInterface, waitingInterface], []⟩

/-- Two candidates of one name may wait longer than the settings say. -/
theorem waiting_may_go_on : ¬ ∀ (options : Options) (name : String)
    (rounds : List (RoundMode × SymbolTable)) (p' : Processor),
    DefersThrough name (start options Check.all) rounds p' →
      rounds.length ≤ options.maxDeferredRounds := by
  intro hall
  have hdefers : DefersThrough "Waiting" (waitingAtMost 2)
      [(.generate, twice), (.generate, twice), (.generate, twice)] _ :=
    .cons_of_any (by decide +kernel) (.cons_of_any (by decide +kernel)
      (.cons_of_any (by decide +kernel) (.nil _)))
  exact absurd (hall _ _ _ _ hdefers) (by decide)

end Processor

end ClientGen
