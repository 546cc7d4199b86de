/-
  ClientGen/Proofs/Model/Roles.lean
  =================================
  **Roles of one kind.**

  A function asks for the first role of a kind, for all of them, or whether there is one;
  the lemmas here tie the three questions together.
-/
import ClientGen.Model.Function

namespace ClientGen.ParameterModel

variable {p : ParameterModel} {k : RoleKind} {r : Role}

theorem kind_of_role? (h : p.role? k = some r) : r.kind = k := by
  unfold role? at h
  simpa using List.find?_some h

theorem isSome_role? (p : ParameterModel) (k : RoleKind) : (p.role? k).isSome = p.hasRole k :=
  List.isSome_find?

theorem role?_eq_head? (p : ParameterModel) (k : RoleKind) : p.role? k = (p.rolesOf k).head? :=
  (List.head?_filter ..).symm

end ClientGen.ParameterModel

namespace ClientGen.FunctionModel

theorem hasRole_eq_isEmpty (f : FunctionModel) (k : RoleKind) :
    f.hasRole k = !(f.parametersWith k).isEmpty := by
  unfold hasRole parametersWith
  rw [Bool.eq_iff_iff]
  simp

end ClientGen.FunctionModel
