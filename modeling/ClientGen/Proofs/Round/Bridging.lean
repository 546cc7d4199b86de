/-
  ClientGen/Proofs/Round/Bridging.lean
  ====================================
  **What becomes of multiplatform factories in a round.**

  A round looks for the factories of an interface in its own table.  There every function
  that is declared `expect` gets its `actual`, or an error says why it gets none
  (`declared_bridged`), however often the interface was deferred before.  What waits for
  the next round is the interface alone: a function that only an earlier table declared is
  lost, even when it was the reason to wait (`declared_may_be_lost`).
-/
import ClientGen.Proofs.Client.Bridging
import ClientGen.Proofs.Round.Files

namespace ClientGen

open ClientGen.Client

/-! ### Declared functions of a model -/

theorem exists_expectFunction {f : FunctionDeclaration} {interface : String}
    (h : f.isFactoryOf interface = true) :
    ∃ e, f.expectFunction? = some e ∧ e.isExpect = f.hasModifier .expect := by
  unfold FunctionDeclaration.isFactoryOf at h
  obtain ⟨-, hreturn⟩ := (Bool.and_eq_true _ _).mp h
  obtain ⟨returnType, htype, -⟩ := (Option.any_eq_true _ _).mp hreturn
  refine ⟨_, by rw [FunctionDeclaration.expectFunction?, htype]; rfl, rfl⟩

/-- The model of a declaration knows the factories of its table. -/
theorem mem_expectFunctions {c : ClassDeclaration} {t : SymbolTable} {m : InterfaceModel}
    (hm : c.modelIn t = some m) {f : FunctionDeclaration} (hf : f ∈ t.functions)
    (hfactory : f.isFactoryOf c.qualifiedName = true) {e : ExpectFunction}
    (he : f.expectFunction? = some e) : e ∈ m.expectFunctions := by
  obtain ⟨file, -, rfl⟩ := Option.map_eq_some_iff.mp hm
  exact List.mem_filterMap.mpr ⟨f, List.mem_filter.mpr ⟨hf, hfactory⟩, he⟩

/-! ### Rounds -/

/-- Its interface was accepted. -/
def Verdict.isValid : Verdict → Bool
  | .valid _ => true
  | _ => false

namespace Processor

variable {p : Processor} {t : SymbolTable} {o : RoundOutput}

/-- Whatever was deferred before: the round that accepts an interface bridges every function
    of its table that is declared `expect` and returns the interface, or records an error
    about it. -/
theorem declared_bridged (hexperimental : p.options.experimental = true)
    (hrun : (p.process t).1.result = .ok o) {j : Judgement} (hj : j ∈ o.judged)
    {files : List SourceFile} (hv : j.verdict = .valid files) {f : FunctionDeclaration}
    (hf : f ∈ t.functions) (hfactory : f.isFactoryOf j.candidate.name = true)
    (hexpect : f.hasModifier .expect = true) :
    ∃ m e, j.model? t = some m ∧ f.expectFunction? = some e
      ∧ (Bridged m o.files e ∨ ∃ d ∈ (p.process t).1.log.records, ReportsMismatch m e d) := by
  obtain ⟨-, rfl⟩ := run_eq_ok.mp hrun
  obtain ⟨before, front, after, back, hjudge, hround⟩ := RoundRules.exists_judge hj
  rw [hv] at hjudge
  obtain ⟨m, generating, generated, haccepts, hgenerate, hrecords⟩ :=
    RoundRules.judge_valid rfl hjudge
  have hmodel := haccepts.modelIn
  obtain ⟨e, he, hsame⟩ := exists_expectFunction hfactory
  have hmem := mem_expectFunctions hmodel hf hfactory he
  refine ⟨m, e, by rw [Judgement.model?, hv]; exact hmodel, he, ?_⟩
  rcases generate_bridges hexperimental hgenerate hmem (hsame.trans hexpect) with
    hbridged | ⟨d, hd, hreports⟩
  · left
    refine hbridged.mono fun file hfile => ?_
    refine List.mem_flatMap.mpr ⟨j, hj, ?_⟩
    rw [hv]
    exact hfile
  · right
    refine ⟨d, ?_, hreports⟩
    rw [hrecords] at hd
    change d ∈ (p.judgements .generate t).log.finish.records
    rw [Log.records_finish]
    exact hround hd

/-- The factory while the type of its parameter is not yet known. -/
def waitingFactory : FunctionDeclaration :=
  { declaredFactory with
    parameters := [⟨"client", ⟨"Client", false, [], false, false, none⟩, false, []⟩] }

/-- The processor after a round in which an interface waited for the types of its factory. -/
def deferring : Processor :=
  (experimenting.process ⟨[acceptedInterface], [waitingFactory]⟩).2

/-- After an earlier deferral the factory that another package declares is bridged in a file of
    that package. -/
theorem declared_bridged_of_multiplatform :
    deferring.pendingNames = ["Users"]
      ∧ ∃ (o : RoundOutput) (m : InterfaceModel) (e : ExpectFunction),
        (deferring.process multiplatform).1.result = .ok o
          ∧ declaredFactory.expectFunction? = some e ∧ e.packageName = "platform"
          ∧ Bridged m o.files e := by
  have hpending : deferring.pendingNames = ["Users"] := by
    decide +kernel
  have hround : ((deferring.process multiplatform).1.result.toOption.any fun o =>
      (o.judged.any fun j => j.candidate.name = "Users" && j.verdict.isValid) = true)
        = true := by
    decide +kernel
  have hclean : ((deferring.process multiplatform).1.log.records.all fun d =>
      d.severity != .error) = true := by
    decide +kernel
  obtain ⟨o, hrun, ho⟩ := ok_of_any hround
  obtain ⟨j, hj, hjudged⟩ := List.any_eq_true.mp ho
  obtain ⟨hname, hverdict⟩ := (Bool.and_eq_true _ _).mp hjudged
  refine ⟨hpending, ?_⟩
  cases hv : j.verdict with
  | valid files =>
    have hfactory : declaredFactory.isFactoryOf j.candidate.name = true := by
      rw [of_decide_eq_true hname]
      decide +kernel
    obtain ⟨m, e, -, he, hbridged⟩ :=
      declared_bridged rfl hrun hj hv List.mem_cons_self hfactory rfl
    rcases hbridged with hbridged | ⟨d, hd, hreports⟩
    · refine ⟨o, m, e, hrun, he, ?_, hbridged⟩
      cases he
      rfl
    · have hnone := List.all_eq_true.mp hclean d hd
      rw [hreports.isError] at hnone
      cases hnone
  | _ => rw [hv] at hverdict; cases hverdict

/-- An interface waits for the types of its factory, and the next round generates it without
    that factory. -/
theorem declared_may_be_lost : ¬ ∀ (options : Options) (t t' : SymbolTable) (o o' : RoundOutput),
    options.experimental = true →
    ((start options Check.all).process t).1.result = .ok o →
    (((start options Check.all).process t).2.process t').1.result = .ok o' →
    ∀ name ∈ o.deferred, name ∈ o'.valid →
    ∀ f ∈ t.functions, f.isFactoryOf name = true → f.hasModifier .expect = true →
    ∀ e, f.expectFunction? = some e →
      (∃ file ∈ o'.files, ∃ g ∈ file.file.functions, actualWord ∈ g.modifiers ∧ g.name = e.name)
        ∨ ∃ d ∈ (((start options Check.all).process t).2.process t').1.log.records,
            d.severity = .error ∧ d.symbol = some (expectSymbol e) := by
  intro hall
  let t : SymbolTable := ⟨[acceptedInterface], [waitingFactory]⟩
  have hfirst : ((experimenting.process t).1.result.toOption.any fun o =>
      o.deferred = ["Users"]) = true := by
    decide +kernel
  have hsecond : (((experimenting.process t).2.process ⟨[], []⟩).1.result.toOption.any fun o =>
      o.valid = ["Users"] ∧ (o.files.all fun file => file.file.functions.all fun g =>
        !g.modifiers.contains actualWord) = true) = true := by
    decide +kernel
  have hclean : (((experimenting.process t).2.process ⟨[], []⟩).1.log.records.all fun d =>
      d.severity != .error) = true := by
    decide +kernel
  have hfactory : waitingFactory.isFactoryOf "Users" = true := by
    decide +kernel
  obtain ⟨e, he, -⟩ := exists_expectFunction hfactory
  obtain ⟨o, hrun, hdeferred⟩ := ok_of_any hfirst
  obtain ⟨o', hrun', hvalid, hplain⟩ := ok_of_any hsecond
  rcases hall _ t ⟨[], []⟩ o o' rfl hrun hrun' "Users" (by rw [hdeferred]; decide)
      (by rw [hvalid]; decide) waitingFactory List.mem_cons_self hfactory rfl e he with
    ⟨file, hfile, g, hg, hactual, -⟩ | ⟨d, hd, herror, -⟩
  · have hplain := List.all_eq_true.mp (List.all_eq_true.mp hplain file hfile) g hg
    rw [List.contains_iff_mem.mpr hactual] at hplain
    cases hplain
  · have hnone := List.all_eq_true.mp hclean d hd
    rw [herror] at hnone
    cases hnone

end Processor

end ClientGen
