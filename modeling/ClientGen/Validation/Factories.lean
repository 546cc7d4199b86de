/-
  ClientGen/Validation/Factories.lean
  ===================================
  **Multiplatform factories have to be declared `expect`.**
-/
import ClientGen.Validation.Finding

namespace ClientGen.Validation

def factoryFindings (c : Context) (e : ExpectFunction) : List Finding :=
  let symbol := some (e.packageName ++ "." ++ e.name)
  if !e.isExpect then [⟨.error, .factoryNotExpect, none, symbol⟩]
  else whenever (!c.options.experimental)
    ⟨.warning, .factoryNeedsExperimental e.name, none, symbol⟩

/-- Findings about the multiplatform factories of an interface. -/
def factories (c : Context) : List Finding :=
  c.model.expectFunctions.flatMap (factoryFindings c)

end ClientGen.Validation
