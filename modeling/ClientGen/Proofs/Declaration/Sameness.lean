/-
  ClientGen/Proofs/Declaration/Sameness.lean
  ==========================================
  **Types that are the same.**

  `TypeRef.Same` compares two types node by node: nullability, and either the name with the
  arguments or the signature.  It reads nothing else, so two types are the same exactly when
  blanking out the rest leaves them alike (`same_iff_shown`), and what is left has the
  display of the whole type (`display_shown`).
-/
import ClientGen.Proofs.Declaration.Nodes

namespace ClientGen

/-! ### Sameness -/

mutual
/-- The types agree on nullability, and on name and arguments or on the signature. -/
def TypeRef.Same : TypeRef → TypeRef → Prop
  | ⟨name, nullable, arguments, _, _, none⟩, ⟨name', nullable', arguments', _, _, none⟩ =>
    nullable = nullable' ∧ name = name' ∧ TypeArgument.AllSame arguments arguments'
  | ⟨_, nullable, _, _, _, some f⟩, ⟨_, nullable', _, _, _, some f'⟩ =>
    nullable = nullable' ∧ f.Same f'
  | _, _ => False

def TypeArgument.Same : TypeArgument → TypeArgument → Prop
  | .star, .star => True
  | .type t, .type u => t.Same u
  | _, _ => False

def TypeArgument.AllSame : List TypeArgument → List TypeArgument → Prop
  | [], [] => True
  | a :: as, b :: bs => a.Same b ∧ TypeArgument.AllSame as bs
  | _, _ => False

def FunctionType.Same : FunctionType → FunctionType → Prop
  | ⟨receiver, parameters, returnType, suspending⟩,
    ⟨receiver', parameters', returnType', suspending'⟩ =>
    suspending = suspending' ∧ TypeRef.OptionSame receiver receiver'
      ∧ TypeRef.AllSame parameters parameters' ∧ returnType.Same returnType'

def TypeRef.OptionSame : Option TypeRef → Option TypeRef → Prop
  | none, none => True
  | some t, some u => t.Same u
  | _, _ => False

def TypeRef.AllSame : List TypeRef → List TypeRef → Prop
  | [], [] => True
  | t :: ts, u :: us => t.Same u ∧ TypeRef.AllSame ts us
  | _, _ => False
end

/-! ### What is shown of a type -/

/-- A function type with nothing behind its signature. -/
def TypeRef.ofSignature (nullable : Bool) (f : FunctionType) : TypeRef :=
  ⟨"", nullable, [], true, false, some f⟩

section Shown

variable (form : String → String)

mutual
/-- The type without what its display leaves out, the classes under other names. -/
def TypeRef.shownAs : TypeRef → TypeRef
  | ⟨name, nullable, arguments, _, typeParameter, none⟩ =>
    ⟨if typeParameter then name else form name, nullable, TypeArgument.allShownAs arguments,
      true, false, none⟩
  | ⟨_, nullable, _, _, _, some f⟩ => .ofSignature nullable f.shownAs

def TypeArgument.shownAs : TypeArgument → TypeArgument
  | .star => .star
  | .type t => .type t.shownAs

def TypeArgument.allShownAs : List TypeArgument → List TypeArgument
  | [] => []
  | a :: as => a.shownAs :: TypeArgument.allShownAs as

def FunctionType.shownAs : FunctionType → FunctionType
  | ⟨receiver, parameters, returnType, suspending⟩ =>
    ⟨TypeRef.optionShownAs receiver, TypeRef.allShownAs parameters, returnType.shownAs,
      suspending⟩

def TypeRef.optionShownAs : Option TypeRef → Option TypeRef
  | none => none
  | some t => some t.shownAs

def TypeRef.allShownAs : List TypeRef → List TypeRef
  | [] => []
  | t :: ts => t.shownAs :: TypeRef.allShownAs ts
end

theorem TypeArgument.allShownAs_eq_map (as : List TypeArgument) :
    TypeArgument.allShownAs form as = as.map (TypeArgument.shownAs form) := by
  induction as with
  | nil => rfl
  | cons a as ih => rw [TypeArgument.allShownAs, List.map_cons, ih]

theorem TypeRef.allShownAs_eq_map (ts : List TypeRef) :
    TypeRef.allShownAs form ts = ts.map (TypeRef.shownAs form) := by
  induction ts with
  | nil => rfl
  | cons t ts ih => rw [TypeRef.allShownAs, List.map_cons, ih]

mutual
/-- The types inside what is shown are shown. -/
theorem TypeRef.nodes_shownAs : ∀ t : TypeRef,
    ∀ m ∈ (t.shownAs form).nodes, ∃ n ∈ t.nodes, m = n.shownAs form
  | ⟨name, nullable, arguments, resolved, typeParameter, none⟩ => by
    rw [TypeRef.shownAs, TypeRef.nodes, List.forall_mem_cons]
    refine ⟨⟨_, TypeRef.mem_nodes _, rfl⟩, fun m hm => ?_⟩
    obtain ⟨n, hn, rfl⟩ := TypeArgument.allNodes_shownAs arguments m hm
    exact ⟨n, List.mem_cons_of_mem _ hn, rfl⟩
  | ⟨name, nullable, arguments, resolved, typeParameter, some f⟩ => by
    rw [TypeRef.shownAs, TypeRef.ofSignature, TypeRef.nodes, List.forall_mem_cons]
    refine ⟨⟨_, TypeRef.mem_nodes _, rfl⟩, fun m hm => ?_⟩
    obtain ⟨n, hn, rfl⟩ := f.nodes_shownAs m hm
    exact ⟨n, List.mem_cons_of_mem _ (List.mem_append_right _ hn), rfl⟩

theorem TypeArgument.allNodes_shownAs : ∀ as : List TypeArgument,
    ∀ m ∈ TypeArgument.allNodes (TypeArgument.allShownAs form as),
      ∃ n ∈ TypeArgument.allNodes as, m = n.shownAs form
  | [], m, hm => nomatch hm
  | .star :: as, m, hm => TypeArgument.allNodes_shownAs as m hm
  | .type t :: as, m, hm => by
    rcases List.mem_append.mp hm with hm | hm
    · obtain ⟨n, hn, rfl⟩ := t.nodes_shownAs m hm
      exact ⟨n, List.mem_append_left _ hn, rfl⟩
    · obtain ⟨n, hn, rfl⟩ := TypeArgument.allNodes_shownAs as m hm
      exact ⟨n, List.mem_append_right _ hn, rfl⟩

theorem FunctionType.nodes_shownAs : ∀ f : FunctionType,
    ∀ m ∈ (f.shownAs form).nodes, ∃ n ∈ f.nodes, m = n.shownAs form
  | ⟨receiver, parameters, returnType, suspending⟩, m, hm => by
    rw [FunctionType.shownAs, FunctionType.nodes] at hm
    rw [FunctionType.nodes]
    rcases List.mem_append.mp hm with hm | hm
    · rcases List.mem_append.mp hm with hm | hm
      · obtain ⟨n, hn, rfl⟩ := TypeRef.optionNodes_shownAs receiver m hm
        exact ⟨n, List.mem_append_left _ (List.mem_append_left _ hn), rfl⟩
      · obtain ⟨n, hn, rfl⟩ := TypeRef.allNodes_shownAs parameters m hm
        exact ⟨n, List.mem_append_left _ (List.mem_append_right _ hn), rfl⟩
    · obtain ⟨n, hn, rfl⟩ := returnType.nodes_shownAs m hm
      exact ⟨n, List.mem_append_right _ hn, rfl⟩

theorem TypeRef.optionNodes_shownAs : ∀ t : Option TypeRef,
    ∀ m ∈ TypeRef.optionNodes (TypeRef.optionShownAs form t),
      ∃ n ∈ TypeRef.optionNodes t, m = n.shownAs form
  | none, m, hm => nomatch hm
  | some t, m, hm => t.nodes_shownAs m hm

theorem TypeRef.allNodes_shownAs : ∀ ts : List TypeRef,
    ∀ m ∈ TypeRef.allNodes (TypeRef.allShownAs form ts),
      ∃ n ∈ TypeRef.allNodes ts, m = n.shownAs form
  | [], m, hm => nomatch hm
  | t :: ts, m, hm => by
    rcases List.mem_append.mp hm with hm | hm
    · obtain ⟨n, hn, rfl⟩ := t.nodes_shownAs m hm
      exact ⟨n, List.mem_append_left _ hn, rfl⟩
    · obtain ⟨n, hn, rfl⟩ := TypeRef.allNodes_shownAs ts m hm
      exact ⟨n, List.mem_append_right _ hn, rfl⟩
end

end Shown

theorem TypeArgument.displays_eq_map (as : List TypeArgument) :
    TypeArgument.displays as = as.map TypeArgument.display := by
  induction as with
  | nil => rfl
  | cons a as ih => rw [TypeArgument.displays, List.map_cons, ih]

theorem TypeRef.displays_eq_map (ts : List TypeRef) :
    TypeRef.displays ts = ts.map TypeRef.display := by
  induction ts with
  | nil => rfl
  | cons t ts ih => rw [TypeRef.displays, List.map_cons, ih]

/-- The type without what its display leaves out. -/
def TypeRef.shown (t : TypeRef) : TypeRef :=
  t.shownAs id

theorem TypeRef.shown_plain (name : String) (nullable : Bool) (as : List TypeArgument)
    (resolved typeParameter : Bool) :
    (TypeRef.mk name nullable as resolved typeParameter none).shown
      = ⟨name, nullable, TypeArgument.allShownAs id as, true, false, none⟩ := by
  rw [shown, shownAs, id_eq, ite_self]

theorem TypeRef.shown_signature (name : String) (nullable : Bool) (as : List TypeArgument)
    (resolved typeParameter : Bool) (receiver : Option TypeRef) (parameters : List TypeRef)
    (returnType : TypeRef) (suspending : Bool) :
    (TypeRef.mk name nullable as resolved typeParameter
        (some ⟨receiver, parameters, returnType, suspending⟩)).shown
      = .ofSignature nullable ⟨receiver.map shown, parameters.map shown, returnType.shown,
        suspending⟩ := by
  rw [shown, shownAs, FunctionType.shownAs, allShownAs_eq_map]
  cases receiver with
  | none => rfl
  | some r => rfl

mutual
theorem TypeRef.same_iff_shown : ∀ t u : TypeRef, t.Same u ↔ t.shown = u.shown
  | ⟨name, nullable, arguments, resolved, typeParameter, none⟩,
    ⟨name', nullable', arguments', resolved', typeParameter', none⟩ => by
    simp only [TypeRef.Same, TypeRef.shown, TypeRef.shownAs, TypeRef.mk.injEq, and_true, id_eq,
      ite_self, TypeArgument.allSame_iff_shown arguments arguments']
    exact and_left_comm
  | ⟨name, nullable, arguments, resolved, typeParameter, some f⟩,
    ⟨name', nullable', arguments', resolved', typeParameter', some f'⟩ => by
    simp only [TypeRef.Same, TypeRef.shown, TypeRef.shownAs, TypeRef.ofSignature,
      TypeRef.mk.injEq, true_and, Option.some.injEq, f.same_iff_shown f']
  | ⟨name, nullable, arguments, resolved, typeParameter, none⟩,
    ⟨name', nullable', arguments', resolved', typeParameter', some f'⟩ => by
    simp [TypeRef.Same, TypeRef.shown, TypeRef.shownAs, TypeRef.ofSignature]
  | ⟨name, nullable, arguments, resolved, typeParameter, some f⟩,
    ⟨name', nullable', arguments', resolved', typeParameter', none⟩ => by
    simp [TypeRef.Same, TypeRef.shown, TypeRef.shownAs, TypeRef.ofSignature]

theorem TypeArgument.same_iff_shown : ∀ a b : TypeArgument,
    a.Same b ↔ a.shownAs id = b.shownAs id
  | .star, .star => by simp [TypeArgument.Same]
  | .star, .type u => by simp [TypeArgument.Same, TypeArgument.shownAs]
  | .type t, .star => by simp [TypeArgument.Same, TypeArgument.shownAs]
  | .type t, .type u => by
    rw [TypeArgument.Same, t.same_iff_shown u, TypeArgument.shownAs, TypeArgument.shownAs,
      TypeArgument.type.injEq]
    rfl

theorem TypeArgument.allSame_iff_shown : ∀ as bs : List TypeArgument,
    TypeArgument.AllSame as bs ↔ TypeArgument.allShownAs id as = TypeArgument.allShownAs id bs
  | [], [] => by simp [TypeArgument.AllSame]
  | [], b :: bs => by simp [TypeArgument.AllSame, TypeArgument.allShownAs]
  | a :: as, [] => by simp [TypeArgument.AllSame, TypeArgument.allShownAs]
  | a :: as, b :: bs => by
    simp [TypeArgument.AllSame, TypeArgument.allShownAs, a.same_iff_shown b,
      TypeArgument.allSame_iff_shown as bs]

theorem FunctionType.same_iff_shown : ∀ f g : FunctionType,
    f.Same g ↔ f.shownAs id = g.shownAs id
  | ⟨receiver, parameters, returnType, suspending⟩,
    ⟨receiver', parameters', returnType', suspending'⟩ => by
    simp only [FunctionType.Same, FunctionType.shownAs, FunctionType.mk.injEq,
      TypeRef.optionSame_iff_shown receiver receiver',
      TypeRef.allSame_iff_shown parameters parameters', returnType.same_iff_shown returnType']
    constructor
    · rintro ⟨hsuspending, hreceiver, hparameters, hresult⟩
      exact ⟨hreceiver, hparameters, hresult, hsuspending⟩
    · rintro ⟨hreceiver, hparameters, hresult, hsuspending⟩
      exact ⟨hsuspending, hreceiver, hparameters, hresult⟩

theorem TypeRef.optionSame_iff_shown : ∀ t u : Option TypeRef,
    TypeRef.OptionSame t u ↔ TypeRef.optionShownAs id t = TypeRef.optionShownAs id u
  | none, none => by simp [TypeRef.OptionSame]
  | none, some u => by simp [TypeRef.OptionSame, TypeRef.optionShownAs]
  | some t, none => by simp [TypeRef.OptionSame, TypeRef.optionShownAs]
  | some t, some u => by
    rw [TypeRef.OptionSame, t.same_iff_shown u, TypeRef.optionShownAs, TypeRef.optionShownAs,
      Option.some.injEq]
    rfl

theorem TypeRef.allSame_iff_shown : ∀ ts us : List TypeRef,
    TypeRef.AllSame ts us ↔ TypeRef.allShownAs id ts = TypeRef.allShownAs id us
  | [], [] => by simp [TypeRef.AllSame]
  | [], u :: us => by simp [TypeRef.AllSame, TypeRef.allShownAs]
  | t :: ts, [] => by simp [TypeRef.AllSame, TypeRef.allShownAs]
  | t :: ts, u :: us => by
    rw [TypeRef.AllSame, t.same_iff_shown u, TypeRef.allSame_iff_shown ts us,
      TypeRef.allShownAs, TypeRef.allShownAs, List.cons.injEq]
    rfl
end

mutual
theorem TypeRef.display_shown : ∀ t : TypeRef, (t.shownAs id).display = t.display
  | ⟨name, nullable, arguments, resolved, typeParameter, none⟩ => by
    rw [TypeRef.shownAs, TypeRef.display, TypeRef.display, id_eq, ite_self,
      TypeArgument.displays_shown arguments]
  | ⟨name, nullable, arguments, resolved, typeParameter, some f⟩ => by
    rw [TypeRef.shownAs, TypeRef.ofSignature, TypeRef.display, TypeRef.display,
      f.displayAs_shown nullable]

theorem TypeArgument.display_shown : ∀ a : TypeArgument, (a.shownAs id).display = a.display
  | .star => rfl
  | .type t => by
    rw [TypeArgument.shownAs, TypeArgument.display, TypeArgument.display, t.display_shown]

theorem TypeArgument.displays_shown : ∀ as : List TypeArgument,
    TypeArgument.displays (TypeArgument.allShownAs id as) = TypeArgument.displays as
  | [] => rfl
  | a :: as => by
    rw [TypeArgument.allShownAs, TypeArgument.displays, TypeArgument.displays, a.display_shown,
      TypeArgument.displays_shown as]

theorem FunctionType.displayAs_shown (nullable : Bool) : ∀ f : FunctionType,
    (f.shownAs id).displayAs nullable = f.displayAs nullable
  | ⟨receiver, parameters, returnType, suspending⟩ => by
    rw [FunctionType.shownAs, FunctionType.displayAs, FunctionType.displayAs,
      TypeRef.displayOption_shown receiver, TypeRef.displays_shown parameters,
      returnType.display_shown]

theorem TypeRef.displayOption_shown : ∀ t : Option TypeRef,
    TypeRef.displayOption (TypeRef.optionShownAs id t) = TypeRef.displayOption t
  | none => rfl
  | some t => by
    rw [TypeRef.optionShownAs, TypeRef.displayOption, TypeRef.displayOption, t.display_shown]

theorem TypeRef.displays_shown : ∀ ts : List TypeRef,
    TypeRef.displays (TypeRef.allShownAs id ts) = TypeRef.displays ts
  | [] => rfl
  | t :: ts => by
    rw [TypeRef.allShownAs, TypeRef.displays, TypeRef.displays, t.display_shown,
      TypeRef.displays_shown ts]
end

/-- The display reads nothing that sameness leaves out. -/
theorem TypeRef.Same.sameType {t u : TypeRef} (h : t.Same u) : t.sameType u = true := by
  rw [TypeRef.sameType, beq_iff_eq, ← t.display_shown, ← u.display_shown]
  exact congrArg TypeRef.display ((t.same_iff_shown u).mp h)

end ClientGen
