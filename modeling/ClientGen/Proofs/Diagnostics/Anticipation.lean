/-
  ClientGen/Proofs/Diagnostics/Anticipation.lean
  ==============================================
  **Work that does no more than other work.**

  `Anticipates R w' w` compares two pieces of work: whenever `w` returns, `w'` returns
  too, with a result related by `R`, and it raises no more messages of any weight.  The
  rules follow `Does`: a common start (`bind`), work that only `w` does in front (`extra`)
  and a step around both (`task`).
-/
import ClientGen.Proofs.Diagnostics.Conduct

namespace ClientGen

/-! ### Records of a log -/

theorem Happening.count_allRecords (severity : Severity) (path : List String)
    (hs : List Happening) :
    ((Happening.allRecords path hs).filter fun d => d.severity == severity).length
      = Happening.countAll severity hs := by
  match hs with
  | [] => rfl
  | .message s text symbol :: hs =>
    have hrest := count_allRecords severity path hs
    by_cases hs : s = severity
    · simp [Happening.allRecords, Happening.records, Happening.countAll, Happening.count, hs,
        hrest, Nat.add_comm]
    · simp [Happening.allRecords, Happening.records, Happening.countAll, Happening.count, hs,
        hrest]
  | .step name status inner :: hs =>
    have hinner := count_allRecords severity (path ++ [name]) inner
    have hrest := count_allRecords severity path hs
    simp only [Happening.allRecords, Happening.records, List.filter_append, List.length_append,
      hinner, hrest, Happening.countAll, Happening.count]

/-- A log holds the messages that happened since, besides those that it held. -/
theorem Log.recorded_after (log : Log) (hs : List Happening) (severity : Severity) :
    (log.after hs).count severity = log.count severity + Happening.countAll severity hs := by
  simp only [Log.count, Log.after, List.filter_append, List.length_append,
    Happening.count_allRecords]

/-! ### Anticipation -/

/-- Whenever `w` returns, `w'` returns a related result and raises no more messages. -/
def Anticipates {α β : Type} (R : α → β → Prop) (w' : StepM α) (w : StepM β) : Prop :=
  ∃ c' c, Does w' c' ∧ Does w c ∧ ∀ b, c.ending = .returns b →
    ∃ a, c'.ending = .returns a ∧ R a b
      ∧ ∀ severity, Happening.countAll severity c'.happenings
          ≤ Happening.countAll severity c.happenings

namespace Anticipates

variable {α β γ : Type} {R : α → β → Prop} {w' : StepM α} {w : StepM β}

theorem pure {a : α} {b : β} (h : R a b) :
    Anticipates R (pure a : StepM α) (pure b : StepM β) := by
  refine ⟨.pure a, .pure b, Does.pure a, Does.pure b, ?_⟩
  intro b' hb
  cases hb
  exact ⟨a, rfl, h, fun severity => Nat.le_refl _⟩

/-- Work that never returns is anticipated by any other. -/
theorem of_dying (hw' : Steady w') (message : String) (symbol : Option String) :
    Anticipates R w' (StepM.die message symbol) := by
  obtain ⟨c', hc'⟩ := hw'
  exact ⟨c', .die message symbol, hc', Does.die message symbol, fun b hb => nomatch hb⟩

theorem bind {v : StepM γ} {k' : γ → StepM α} {k : γ → StepM β} (hv : Steady v)
    (hk : ∀ x, Anticipates R (k' x) (k x)) : Anticipates R (v >>= k') (v >>= k) := by
  obtain ⟨e, he⟩ := hv
  choose d' d hd' hd hkeep using hk
  refine ⟨e.bind d', e.bind d, he.bind hd', he.bind hd, ?_⟩
  intro b hb
  obtain ⟨ending, happenings⟩ := e
  cases ending with
  | returns x =>
    obtain ⟨a, ha, hR, hless⟩ := hkeep x b hb
    refine ⟨a, ha, hR, fun severity => ?_⟩
    simp only [Conduct.bind, Happening.countAll_append]
    exact Nat.add_le_add_left (hless severity) _
  | fails f => cases hb
  | dies f => cases hb

/-- What only the second work does in front adds to its messages. -/
theorem extra {v : StepM γ} {k : γ → StepM β} (hw' : Steady w') (hv : Steady v)
    (hk : ∀ x, Anticipates R w' (k x)) : Anticipates R w' (v >>= k) := by
  obtain ⟨c', hc'⟩ := hw'
  obtain ⟨e, he⟩ := hv
  choose d' d hd' hd hkeep using hk
  obtain ⟨ending, happenings⟩ := e
  cases ending with
  | returns x =>
    refine ⟨d' x, _, hd' x, he.bind hd, ?_⟩
    intro b hb
    obtain ⟨a, ha, hR, hless⟩ := hkeep x b hb
    refine ⟨a, ha, hR, fun severity => ?_⟩
    simp only [Conduct.bind, Happening.countAll_append]
    exact Nat.le_add_left_of_le (hless severity)
  | fails f =>
    refine ⟨c', _, hc', he.bind hd, ?_⟩
    intro b hb
    cases hb
  | dies f =>
    refine ⟨c', _, hc', he.bind hd, ?_⟩
    intro b hb
    cases hb

theorem task (name : String) (h : Anticipates R w' w) :
    Anticipates R (StepM.task name w') (StepM.task name w) := by
  obtain ⟨c', c, hc', hc, hkeep⟩ := h
  refine ⟨c'.task name, c.task name, hc'.task name, hc.task name, ?_⟩
  intro b hb
  obtain ⟨a, ha, hR, hless⟩ := hkeep b hb
  refine ⟨a, ha, hR, fun severity => ?_⟩
  simp only [Conduct.task, Happening.countAll, Happening.count]
  exact Nat.add_le_add_right (hless severity) 0

/-- Two logs that are no fuller on the left stay so, and the left work returns. -/
theorem run {log log' after : Log} {b : β} (h : Anticipates R w' w)
    (hrun : w.run.run log = (.ok b, after))
    (hless : ∀ severity, log'.count severity ≤ log.count severity) :
    ∃ a after', w'.run.run log' = (.ok a, after') ∧ R a b
      ∧ ∀ severity, after'.count severity ≤ after.count severity := by
  obtain ⟨c', c, hc', hc, hkeep⟩ := h
  have hb := hc.ending_eq_returns hrun
  obtain ⟨a, ha, hR, hmessages⟩ := hkeep b hb
  have hafter : after = log.after c.happenings := by
    have hsettled := hc log
    rw [hrun, hb] at hsettled
    exact congrArg Prod.snd hsettled
  refine ⟨a, log'.after c'.happenings, ?_, hR, fun severity => ?_⟩
  · rw [hc' log', ha]
    rfl
  · rw [hafter, Log.recorded_after, Log.recorded_after]
    exact Nat.add_le_add (hless severity) (hmessages severity)

end Anticipates

end ClientGen
