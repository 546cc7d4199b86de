/-
  ClientGen/Proofs/Client/Enrollment.lean
  =======================================
  **When no factory is refused.**

  What is generated for an interface is the same in every registry that admits its keys,
  and all its keys are added (`generate_yields`); where a registry does not admit them, a
  record says so (`generate_reports`).
-/
import ClientGen.Proofs.Client.Factories
import ClientGen.Proofs.Client.Generation
import ClientGen.Proofs.Client.Growth

namespace ClientGen

open ClientGen.Client ClientGen.Client.FactoryRegistry ClientGen.Text

/-! ### Generation in a registry -/

/-- The record reports a refused factory of an interface. -/
def Diagnostic.ReportsDuplicate (d : Diagnostic) : Prop :=
  ∃ (kind : FactoryKind) (key : FactoryKey) (interface : String), d.severity = .warning
    ∧ d.message = trim (Problem.duplicateFactory kind.label key.display).message
    ∧ d.symbol = some interface

section Generation

variable {m : InterfaceModel} {o : Options} {registry registry' : FactoryRegistry}
  {names names' : ImportTable} {log log' : Log}

/-- Every refused factory is in the log. -/
theorem generateFactories_reports {enrollment : Enrollment}
    (hrun : (generateFactories m registry names).run.run log = (.ok (enrollment, names'), log')) :
    registry.Admits m.factoryKeys ∨ ∃ d ∈ log'.records, d.ReportsDuplicate := by
  rw [generateFactories_eq (companion_of_generateFactories hrun)] at hrun
  obtain ⟨_, recorded, hrecord, hreturn⟩ := StepM.ok_of_bind hrun
  obtain ⟨-, rfl⟩ := Prod.mk.inj hreturn
  cases hrefused : (registry.enroll ((writeFactories m).run names).1).refused with
  | nil =>
    left
    rw [← writeFactories_keys m names]
    exact admits_of_refused hrefused
  | cons f refused =>
    right
    rw [hrefused] at hrecord
    obtain ⟨d, hd, hseverity, hmessage, hsymbol⟩ :=
      exists_record_recordAll (List.mem_map_of_mem List.mem_cons_self) hrecord
    rw [Finding.message_of_unsigned rfl] at hmessage
    exact ⟨d, hd, f.kind, f.key, m.qualifiedName, hseverity, hmessage, hsymbol⟩

/-- Where the keys are admitted, all factories are enrolled, in this registry and in any
    other one. -/
theorem generateFactories_yields {enrollment : Enrollment}
    (hrun : (generateFactories m registry names).run.run log = (.ok (enrollment, names'), log'))
    (hadmits : registry.Admits m.factoryKeys) :
    enrollment.registry = registry.adding m.factoryKeys
      ∧ ∀ other : FactoryRegistry, other.Admits m.factoryKeys →
          Yields (generateFactories m other names)
            (⟨other.adding m.factoryKeys, enrollment.enrolled, []⟩, names') := by
  have hkeys := writeFactories_keys m names
  have henroll : ∀ other : FactoryRegistry, other.Admits m.factoryKeys →
      other.enroll ((writeFactories m).run names).1
        = ⟨other.adding m.factoryKeys, ((writeFactories m).run names).1, []⟩ := by
    intro other hother
    rw [← hkeys] at hother ⊢
    exact enroll_of_admits hother
  obtain ⟨rfl, rfl⟩ := Prod.mk.inj (generateFactories_ok hrun)
  rw [henroll registry hadmits]
  refine ⟨rfl, fun other hother => ?_⟩
  rw [generateFactories_eq (companion_of_generateFactories hrun), henroll other hother]
  exact Yields.bind ⟨_, recordAll_does []⟩ (Yields.pure _)

/-- Where nothing is reported, the registry admitted the keys. -/
theorem generate_reports {files : List SourceFile}
    (hrun : (generate m o registry).run.run log = (.ok (files, registry'), log')) :
    registry.Admits m.factoryKeys ∨ ∃ d ∈ log'.records, d.ReportsDuplicate := by
  obtain ⟨cls, names₁, log₁, enrollment, names₂, log₂, actuals, final, log₃, -, hfactories,
    hactuals, hlater, -, -, -⟩ := generate_ok hrun
  refine (generateFactories_reports hfactories).imp_right ?_
  rintro ⟨d, hd, hreports⟩
  have hkept := (generateActuals_returns m o names₂ enrollment.enrolled).steady.records hactuals
  exact ⟨d, hlater (hkept hd), hreports⟩

/-- Where the keys are admitted, the files are those of any other registry that admits
    them, and all keys are added. -/
theorem generate_yields {files : List SourceFile}
    (hrun : (generate m o registry).run.run log = (.ok (files, registry'), log'))
    (hadmits : registry.Admits m.factoryKeys) :
    registry' = registry.adding m.factoryKeys
      ∧ ∀ other : FactoryRegistry, other.Admits m.factoryKeys →
          Yields (generate m o other) (files, other.adding m.factoryKeys) := by
  obtain ⟨cls, names₁, log₁, enrollment, names₂, log₂, actuals, final, log₃, hclass, hfactories,
    hactuals, -, -, rfl, rfl⟩ := generate_ok hrun
  obtain ⟨hregistry, henrolled⟩ := generateFactories_yields hfactories hadmits
  refine ⟨hregistry, fun other hother => ?_⟩
  unfold generate
  refine ((generateClass_steady m _).yields hclass).bind ?_
  refine (henrolled other hother).bind ?_
  refine ((generateActuals_returns m o names₂ enrollment.enrolled).steady.yields hactuals).bind ?_
  exact Yields.bind ⟨_, note_does _⟩ (Yields.pure _)

end Generation

end ClientGen
