/-
  ClientGen/Proofs/Declaration/Nodes.lean
  =======================================
  **The types inside a type.**

  `TypeRef.nodes` lists a type and every type inside it in reading order: the arguments,
  then receiver, parameters and result of a signature, at every depth.  Collecting the
  names of unresolved types walks the same tree with a list of names in hand, so it visits
  these nodes one after the other (`TypeRef.unresolved_eq`), and visiting keeps the first
  occurrence of every name (`foldl_visit_nil`).
-/
import ClientGen.Declaration.TypeRef
import Mathlib.Data.List.Induction
import Mathlib.Data.List.Nodup

namespace ClientGen

/-! ### Nodes -/

mutual
/-- The type and the types inside it, in reading order. -/
def TypeRef.nodes : TypeRef → List TypeRef
  | ⟨name, nullable, arguments, resolved, typeParameter, none⟩ =>
    ⟨name, nullable, arguments, resolved, typeParameter, none⟩ :: TypeArgument.allNodes arguments
  | ⟨name, nullable, arguments, resolved, typeParameter, some f⟩ =>
    ⟨name, nullable, arguments, resolved, typeParameter, some f⟩
      :: (TypeArgument.allNodes arguments ++ f.nodes)

def TypeArgument.allNodes : List TypeArgument → List TypeRef
  | [] => []
  | .star :: as => TypeArgument.allNodes as
  | .type t :: as => t.nodes ++ TypeArgument.allNodes as

def FunctionType.nodes : FunctionType → List TypeRef
  | ⟨receiver, parameters, returnType, _⟩ =>
    TypeRef.optionNodes receiver ++ TypeRef.allNodes parameters ++ returnType.nodes

def TypeRef.optionNodes : Option TypeRef → List TypeRef
  | none => []
  | some t => t.nodes

def TypeRef.allNodes : List TypeRef → List TypeRef
  | [] => []
  | t :: ts => t.nodes ++ TypeRef.allNodes ts
end

theorem TypeRef.mem_nodes (t : TypeRef) : t ∈ t.nodes := by
  obtain ⟨name, nullable, arguments, resolved, typeParameter, function⟩ := t
  cases function with
  | none => exact List.mem_cons_self
  | some f => exact List.mem_cons_self

theorem TypeArgument.allNodes_append (as bs : List TypeArgument) :
    TypeArgument.allNodes (as ++ bs) = TypeArgument.allNodes as ++ TypeArgument.allNodes bs := by
  induction as with
  | nil => rfl
  | cons a as ih =>
    cases a with
    | star => exact ih
    | type t => rw [List.cons_append, allNodes, allNodes, ih, List.append_assoc]

theorem TypeRef.allNodes_eq (ts : List TypeRef) :
    TypeRef.allNodes ts = ts.flatMap TypeRef.nodes := by
  induction ts with
  | nil => rfl
  | cons t ts ih => rw [TypeRef.allNodes, List.flatMap_cons, ih]

theorem TypeRef.nodes_of_mem_arguments {t u : TypeRef} (h : .type u ∈ t.arguments) :
    ∀ n ∈ u.nodes, n ∈ t.nodes := by
  have hall : ∀ as : List TypeArgument, .type u ∈ as → ∀ n ∈ u.nodes,
      n ∈ TypeArgument.allNodes as := by
    intro as hmem n hn
    induction as with
    | nil => cases hmem
    | cons a as ih =>
      rcases List.mem_cons.mp hmem with rfl | hrest
      · exact List.mem_append_left _ hn
      · cases a with
        | star => exact ih hrest
        | type v => exact List.mem_append_right _ (ih hrest)
  obtain ⟨name, nullable, arguments, resolved, typeParameter, function⟩ := t
  intro n hn
  have hn := hall arguments h n hn
  cases function with
  | none => exact List.mem_cons_of_mem _ hn
  | some f => exact List.mem_cons_of_mem _ (List.mem_append_left _ hn)

/-- The types right inside a type: those of the signature, or else the arguments. -/
def TypeRef.parts (t : TypeRef) : List TypeRef :=
  match t.function with
  | some f => f.receiver.toList ++ f.parameters ++ [f.returnType]
  | none => t.arguments.filterMap fun a =>
    match a with
    | .star => none
    | .type u => some u

theorem TypeRef.mem_parts_plain {t u : TypeRef} (hfunction : t.function = none) :
    u ∈ t.parts ↔ .type u ∈ t.arguments := by
  rw [TypeRef.parts, hfunction, List.mem_filterMap]
  constructor
  · rintro ⟨a, ha, hu⟩
    cases a with
    | star => cases hu
    | type v => cases hu; exact ha
  · exact fun hu => ⟨.type u, hu, rfl⟩

theorem TypeRef.nodes_of_mem_parts {t u : TypeRef} (h : u ∈ t.parts) :
    ∀ n ∈ u.nodes, n ∈ t.nodes := by
  cases hfunction : t.function with
  | none => exact nodes_of_mem_arguments ((mem_parts_plain hfunction).mp h)
  | some f =>
    obtain ⟨name, nullable, arguments, resolved, typeParameter, function⟩ := t
    obtain ⟨receiver, parameters, returnType, suspending⟩ := f
    cases hfunction
    intro n hn
    refine List.mem_cons_of_mem _ (List.mem_append_right _ ?_)
    rw [FunctionType.nodes, TypeRef.allNodes_eq, List.mem_append, List.mem_append]
    simp only [TypeRef.parts, List.mem_append, List.mem_singleton, Option.mem_toList] at h
    rcases h with (hreceiver | hparameter) | rfl
    · rw [hreceiver]
      exact .inl (.inl hn)
    · exact .inl (.inr (List.mem_flatMap.mpr ⟨u, hparameter, hn⟩))
    · exact .inr hn

theorem TypeRef.forall_nodes_signature {P : TypeRef → Prop} {name : String} {nullable : Bool}
    {as : List TypeArgument} {resolved typeParameter : Bool} {receiver : Option TypeRef}
    {parameters : List TypeRef} {returnType : TypeRef} {suspending : Bool} :
    (∀ n ∈ (TypeRef.mk name nullable as resolved typeParameter
        (some ⟨receiver, parameters, returnType, suspending⟩)).nodes, P n)
      ↔ P ⟨name, nullable, as, resolved, typeParameter,
          some ⟨receiver, parameters, returnType, suspending⟩⟩
        ∧ (∀ n ∈ TypeArgument.allNodes as, P n) ∧ (∀ n ∈ TypeRef.optionNodes receiver, P n)
        ∧ (∀ n ∈ TypeRef.allNodes parameters, P n) ∧ ∀ n ∈ returnType.nodes, P n := by
  rw [TypeRef.nodes, FunctionType.nodes, List.forall_mem_cons, List.forall_mem_append,
    List.forall_mem_append, List.forall_mem_append, and_assoc]

/-- The types that show in a type: itself and those in its parts. -/
inductive TypeRef.Shows : TypeRef → TypeRef → Prop
  | self (t : TypeRef) : Shows t t
  | part {t u n : TypeRef} (hu : u ∈ t.parts) (hn : u.Shows n) : Shows t n

theorem TypeRef.Shows.mem_nodes {t n : TypeRef} (h : t.Shows n) : n ∈ t.nodes := by
  induction h with
  | self t => exact t.mem_nodes
  | part hu _ ih => exact nodes_of_mem_parts hu _ ih

/-! ### Unresolved nodes -/

/-- Keep the name of a node that is not resolved. -/
def visit (names : List String) (t : TypeRef) : List String :=
  if t.resolved then names else addName names t.qualifiedName

mutual
theorem TypeRef.unresolved_eq :
    ∀ (t : TypeRef) (names : List String), t.unresolved names = t.nodes.foldl visit names
  | ⟨name, nullable, arguments, resolved, typeParameter, none⟩, names => by
    rw [TypeRef.unresolved, TypeRef.nodes, List.foldl_cons,
      TypeArgument.unresolvedAll_eq arguments]
    rfl
  | ⟨name, nullable, arguments, resolved, typeParameter, some f⟩, names => by
    rw [TypeRef.unresolved, TypeRef.nodes, List.foldl_cons, List.foldl_append,
      ← TypeArgument.unresolvedAll_eq arguments, ← f.unresolved_eq]
    rfl

theorem TypeArgument.unresolvedAll_eq : ∀ (as : List TypeArgument) (names : List String),
    TypeArgument.unresolvedAll as names = (TypeArgument.allNodes as).foldl visit names
  | [], names => by rw [TypeArgument.unresolvedAll, TypeArgument.allNodes, List.foldl_nil]
  | .star :: as, names => by
    rw [TypeArgument.unresolvedAll, TypeArgument.allNodes, TypeArgument.unresolvedAll_eq as]
  | .type t :: as, names => by
    rw [TypeArgument.unresolvedAll, TypeArgument.allNodes, List.foldl_append,
      TypeArgument.unresolvedAll_eq as, t.unresolved_eq]

theorem FunctionType.unresolved_eq :
    ∀ (f : FunctionType) (names : List String), f.unresolved names = f.nodes.foldl visit names
  | ⟨receiver, parameters, returnType, suspending⟩, names => by
    rw [FunctionType.unresolved, FunctionType.nodes, List.foldl_append, List.foldl_append,
      returnType.unresolved_eq, TypeRef.unresolvedAll_eq parameters,
      TypeRef.unresolvedOption_eq receiver]

theorem TypeRef.unresolvedOption_eq : ∀ (t : Option TypeRef) (names : List String),
    TypeRef.unresolvedOption t names = (TypeRef.optionNodes t).foldl visit names
  | none, names => by rw [TypeRef.unresolvedOption, TypeRef.optionNodes, List.foldl_nil]
  | some t, names => by rw [TypeRef.unresolvedOption, TypeRef.optionNodes, t.unresolved_eq]

theorem TypeRef.unresolvedAll_eq : ∀ (ts : List TypeRef) (names : List String),
    TypeRef.unresolvedAll ts names = (TypeRef.allNodes ts).foldl visit names
  | [], names => by rw [TypeRef.unresolvedAll, TypeRef.allNodes, List.foldl_nil]
  | t :: ts, names => by
    rw [TypeRef.unresolvedAll, TypeRef.allNodes, List.foldl_append, TypeRef.unresolvedAll_eq ts,
      t.unresolved_eq]
end

/-- The names of the unresolved types among nodes, as often as they stand there. -/
def unresolvedIn (nodes : List TypeRef) : List String :=
  (nodes.filter fun n => !n.resolved).map fun n => n.qualifiedName

theorem mem_unresolvedIn {nodes : List TypeRef} {name : String} :
    name ∈ unresolvedIn nodes ↔ ∃ n ∈ nodes, n.resolved = false ∧ n.qualifiedName = name := by
  unfold unresolvedIn
  simp [and_assoc]

theorem addName_eraseDups (names : List String) (name : String) :
    addName names.eraseDups name = (names ++ [name]).eraseDups := by
  unfold addName
  rw [List.eraseDups_append]
  by_cases hmem : name ∈ names
  · rw [if_pos (by simpa using hmem)]
    simp [List.removeAll, hmem]
  · rw [if_neg (by simpa using hmem)]
    simp [List.removeAll, hmem, List.eraseDups_cons]

/-- Visiting nodes keeps the first occurrence of every name. -/
theorem foldl_visit_eraseDups (nodes : List TypeRef) (names : List String) :
    nodes.foldl visit names.eraseDups = (names ++ unresolvedIn nodes).eraseDups := by
  induction nodes generalizing names with
  | nil => simp [unresolvedIn]
  | cons n nodes ih =>
    rw [List.foldl_cons, visit]
    cases hresolved : n.resolved with
    | true =>
      rw [if_pos rfl, ih names]
      simp [unresolvedIn, hresolved]
    | false =>
      rw [if_neg (by decide), addName_eraseDups, ih (names ++ [n.qualifiedName])]
      simp [unresolvedIn, hresolved]

theorem foldl_visit_nil (nodes : List TypeRef) :
    nodes.foldl visit [] = (unresolvedIn nodes).eraseDups :=
  foldl_visit_eraseDups nodes []

theorem nodup_eraseDups (names : List String) : names.eraseDups.Nodup := by
  -- from the right, where a name is added
  induction names using List.reverseRecOn with
  | nil => exact List.nodup_nil
  | append_singleton names name ih =>
    rw [← addName_eraseDups, addName]
    by_cases hmem : name ∈ names
    · rw [if_pos (by simpa using hmem)]
      exact ih
    · rw [if_neg (by simpa using hmem)]
      refine List.nodup_append.mpr ⟨ih, List.nodup_singleton name, ?_⟩
      intro other hother last hlast heq
      rw [List.mem_singleton.mp hlast] at heq
      exact hmem (List.mem_eraseDups.mp (heq ▸ hother))

end ClientGen
