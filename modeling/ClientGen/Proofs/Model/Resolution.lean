/-
  ClientGen/Proofs/Model/Resolution.lean
  ======================================
  **Models hold resolved types only.**

  A declaration and its factories have types at several places, and a model takes every one
  of its types from there, those that a return kind holds included
  (`nodes_types_resolvedModel`).  Extraction looks for unresolved names at all of these
  places before it builds a model, and defers the declaration by them (`types_resolved`).
-/
import ClientGen.Proofs.Declaration.Nodes
import ClientGen.Proofs.Model.Extraction

namespace ClientGen

/-! ### Typed places -/

/-- The types of a signature: what the function returns, and then its parameters. -/
def FunctionDeclaration.types (f : FunctionDeclaration) : List TypeRef :=
  f.returnType.toList ++ f.parameters.map fun p => p.type

/-- The types of a declaration and of the factories that return it, in reading order. -/
def ClassDeclaration.types (c : ClassDeclaration) (factories : List FunctionDeclaration) :
    List TypeRef :=
  c.supertypes ++ c.properties.map (fun p => p.type)
    ++ (c.functions ++ factories).flatMap FunctionDeclaration.types

def ReturnKind.types : ReturnKind → List TypeRef
  | .plain t => [t]
  | .result inner => inner.types
  | .flow inner => inner.types
  | _ => []

/-- The types of a function: what it returns, what is in there, and its parameters. -/
def FunctionModel.types (f : FunctionModel) : List TypeRef :=
  f.returnType :: f.returnKind.types ++ f.parameters.map fun p => p.type

def ExpectFunction.types (f : ExpectFunction) : List TypeRef :=
  f.returnType :: f.parameters.map fun p => p.2

/-- The types at every typed place of a model. -/
def InterfaceModel.types (m : InterfaceModel) : List TypeRef :=
  m.supertypes ++ m.properties.map (fun p => p.type) ++ m.functions.flatMap FunctionModel.types
    ++ m.expectFunctions.flatMap ExpectFunction.types

/-- The type and every type inside it are resolved. -/
def TypeRef.IsResolved (t : TypeRef) : Prop :=
  ∀ n ∈ t.nodes, n.resolved = true

/-! ### Unresolved names -/

theorem foldl_unresolved (types : List TypeRef) (names : List String) :
    types.foldl (fun names t => t.unresolved names) names
      = (types.flatMap TypeRef.nodes).foldl visit names := by
  induction types generalizing names with
  | nil => rfl
  | cons t types ih => rw [List.foldl_cons, ih, List.flatMap_cons, List.foldl_append,
      t.unresolved_eq]

theorem FunctionDeclaration.unresolved_eq (f : FunctionDeclaration) (names : List String) :
    f.unresolved names = f.types.foldl (fun names t => t.unresolved names) names := by
  unfold unresolved types
  rw [List.foldl_append, List.foldl_map]
  cases f.returnType with
  | none => rfl
  | some t => rfl

/-- The places are visited in reading order, and every name is kept where it is met first. -/
theorem unresolvedNames_eq (c : ClassDeclaration) (factories : List FunctionDeclaration) :
    unresolvedNames c factories
      = (unresolvedIn ((c.types factories).flatMap TypeRef.nodes)).eraseDups := by
  rw [← foldl_visit_nil, ← foldl_unresolved, ClassDeclaration.types, List.foldl_append,
    List.foldl_append, List.foldl_map, List.foldl_flatMap]
  unfold unresolvedNames
  simp only [FunctionDeclaration.unresolved_eq]

theorem isResolved_of_unresolvedNames {c : ClassDeclaration}
    {factories : List FunctionDeclaration} (h : unresolvedNames c factories = []) :
    ∀ t ∈ c.types factories, t.IsResolved := by
  intro t ht n hn
  by_contra hunresolved
  rw [Bool.not_eq_true] at hunresolved
  have hname : n.qualifiedName ∈ unresolvedNames c factories := by
    rw [unresolvedNames_eq, List.mem_eraseDups, mem_unresolvedIn]
    exact ⟨n, List.mem_flatMap.mpr ⟨t, ht, hn⟩, hunresolved, rfl⟩
  rw [h] at hname
  cases hname

/-! ### Where the types of a model come from -/

theorem TypeRef.nodes_argument? {t u : TypeRef} {i : Nat} (h : t.argument? i = some u) :
    ∀ n ∈ u.nodes, n ∈ t.nodes := by
  apply TypeRef.nodes_of_mem_arguments
  unfold argument? at h
  split at h
  · rename_i v hv
    cases h
    exact List.mem_of_getElem? hv
  · cases h

namespace ReturnKind

theorem nodes_types_leaf {t u : TypeRef} (h : u ∈ (leaf t).types) : ∀ n ∈ u.nodes, n ∈ t.nodes := by
  unfold leaf at h
  split at h
  · cases h
  · rw [types, List.mem_singleton] at h
    rw [h]
    exact fun n hn => hn

/-- What a return kind holds stands in the return type. -/
theorem nodes_types_classify {t u : TypeRef} (h : u ∈ (classify t).types) :
    ∀ n ∈ u.nodes, n ∈ t.nodes := by
  intro n hn
  unfold classify at h
  split at h
  · cases hitem : t.argument? 0 with
    | none => rw [hitem] at h; cases h
    | some item =>
      apply TypeRef.nodes_argument? hitem
      rw [hitem, ofFlow] at h
      split at h
      · split at h
        · rename_i inner hinner
          exact TypeRef.nodes_argument? hinner n (nodes_types_leaf h n hn)
        · cases h
      · exact nodes_types_leaf h n hn
  · split at h
    · cases hinner : t.argument? 0 with
      | none => rw [hinner] at h; cases h
      | some inner =>
        apply TypeRef.nodes_argument? hinner
        rw [hinner, ofResult] at h
        split at h
        · cases h
        · split at h
          · cases h
          · exact nodes_types_leaf h n hn
    · split at h
      · cases h
      · split at h
        · cases h
        · exact nodes_types_leaf h n hn

end ReturnKind

theorem FunctionDeclaration.nodes_types_model? {d : FunctionDeclaration} {basePath : String}
    {f : FunctionModel} (hf : d.model? basePath = some f) {u : TypeRef} (hu : u ∈ f.types) :
    ∃ t ∈ d.types, ∀ n ∈ u.nodes, n ∈ t.nodes := by
  obtain ⟨t, htype, rfl⟩ := model?_eq_some hf
  have hreturn : t ∈ d.types := by simp [types, htype]
  rcases List.mem_append.mp hu with hu | hu
  · rcases List.mem_cons.mp hu with rfl | hu
    · exact ⟨u, hreturn, fun n hn => hn⟩
    · exact ⟨t, hreturn, ReturnKind.nodes_types_classify hu⟩
  · obtain ⟨p, hp, rfl⟩ := List.mem_map.mp hu
    obtain ⟨q, hq, rfl⟩ := List.mem_map.mp hp
    exact ⟨q.type, List.mem_append_right _ (List.mem_map_of_mem hq), fun n hn => hn⟩

theorem FunctionDeclaration.types_expectFunction? {d : FunctionDeclaration} {f : ExpectFunction}
    (hf : d.expectFunction? = some f) {u : TypeRef} (hu : u ∈ f.types) : u ∈ d.types := by
  obtain ⟨t, htype, rfl⟩ := Option.map_eq_some_iff.mp hf
  unfold types
  rw [htype]
  simpa [ExpectFunction.types] using hu

theorem type_mem_of_splitClient {ps : List PropertyDeclaration} {u : TypeRef}
    (hu : u ∈ (splitClient ps).2.map fun p => p.type) : u ∈ ps.map fun p => p.type := by
  induction ps with
  | nil => exact hu
  | cons p ps ih =>
    rw [splitClient] at hu
    split at hu
    · rw [List.map_map] at hu
      exact List.mem_cons_of_mem _ hu
    · rcases List.mem_cons.mp hu with rfl | hu
      · exact List.mem_cons_self
      · exact List.mem_cons_of_mem _ (ih hu)

/-- Every type of a model stands in the declaration or in one of its factories. -/
theorem ClassDeclaration.nodes_types_resolvedModel {c : ClassDeclaration}
    {factories : List FunctionDeclaration} {file : FileRef} {u : TypeRef}
    (hu : u ∈ (c.resolvedModel factories file).types) :
    ∃ t ∈ c.types factories, ∀ n ∈ u.nodes, n ∈ t.nodes := by
  unfold InterfaceModel.types at hu
  simp only [List.mem_append] at hu
  unfold types
  rcases hu with ((hsuper | hproperty) | hfunction) | hexpect
  · have hmem : u ∈ c.supertypes := (List.mem_filter.mp hsuper).1
    exact ⟨u, by simp [hmem], fun n hn => hn⟩
  · have hmem : u ∈ c.properties.map fun p => p.type := type_mem_of_splitClient hproperty
    exact ⟨u, by rw [List.append_assoc]; simp only [List.mem_append, hmem, true_or, or_true],
      fun n hn => hn⟩
  · obtain ⟨f, hf, hu⟩ := List.mem_flatMap.mp hfunction
    obtain ⟨d, hd, hmodel⟩ := List.mem_filterMap.mp hf
    obtain ⟨t, ht, hnodes⟩ := d.nodes_types_model? hmodel hu
    exact ⟨t, List.mem_append_right _ (List.mem_flatMap.mpr ⟨d, List.mem_append_left _ hd, ht⟩),
      hnodes⟩
  · obtain ⟨f, hf, hu⟩ := List.mem_flatMap.mp hexpect
    obtain ⟨d, hd, hexpect⟩ := List.mem_filterMap.mp hf
    have hmem : u ∈ d.types := d.types_expectFunction? hexpect hu
    exact ⟨u, List.mem_append_right _ (List.mem_flatMap.mpr ⟨d, List.mem_append_right _ hd, hmem⟩),
      fun n hn => hn⟩

/-! ### Ready and deferred declarations -/

section Extract

variable {c : ClassDeclaration} {factories : List FunctionDeclaration} {log log' : Log}

theorem ClassDeclaration.unresolvedNames_of_ready {m : InterfaceModel}
    (hrun : (c.extract factories).run.run log = (.ok (.ready m), log')) :
    unresolvedNames c factories = [] := by
  obtain hrejected | ⟨-, hdeferred⟩ | ⟨hnames, -⟩ := cases_of_extract hrun
  · cases hrejected
  · cases hdeferred
  · exact hnames

theorem ClassDeclaration.unresolvedNames_of_deferred {names : List String}
    (hrun : (c.extract factories).run.run log = (.ok (.deferred names), log')) :
    names ≠ [] ∧ unresolvedNames c factories = names := by
  obtain hrejected | ⟨hne, hdeferred⟩ | ⟨-, file, -, hending⟩ := cases_of_extract hrun
  · cases hrejected
  · cases hdeferred
    exact ⟨hne, rfl⟩
  · -- once its types are looked at, a declaration is not deferred any more
    obtain hskipped | hrejected | ⟨-, hready⟩ := cases_of_resolvedConduct hending
    · cases hskipped
    · cases hrejected
    · cases hready

/-- An interface of common code with an unresolved name is deferred. -/
theorem ClassDeclaration.extract_of_unresolvedNames {file : FileRef}
    (hcommon : c.isExpectOrExternal = false)
    (hfunctions : c.functions.find? FunctionDeclaration.isExpectOrExternal = none)
    (hkind : c.kind = .interfaceKind) (hfile : c.file = some file)
    (hnames : unresolvedNames c factories ≠ []) (log : Log) :
    ∃ log', (c.extract factories).run.run log
      = (.ok (.deferred (unresolvedNames c factories)), log') := by
  apply (c.extract_does factories).run_eq_ok
  unfold conduct commonConduct
  rw [hcommon, hfunctions, hkind, hfile]
  cases h : unresolvedNames c factories with
  | nil => exact (hnames h).elim
  | cons name names => rfl

end Extract

/-- A model that extraction hands on holds no unresolved type at any depth.  A declaration is
    deferred by the names of its unresolved types: at least one, each once, and in the order
    in which they are met first. -/
theorem types_resolved (c : ClassDeclaration) (factories : List FunctionDeclaration)
    (log log' : Log) :
    (∀ m, (c.extract factories).run.run log = (.ok (.ready m), log') →
        ∀ t ∈ m.types, t.IsResolved)
      ∧ ∀ names, (c.extract factories).run.run log = (.ok (.deferred names), log') →
        names ≠ [] ∧ names.Nodup
          ∧ names = (unresolvedIn ((c.types factories).flatMap TypeRef.nodes)).eraseDups
          ∧ ∀ name, name ∈ names ↔ ∃ t ∈ c.types factories, ∃ n ∈ t.nodes,
            n.resolved = false ∧ n.qualifiedName = name := by
  constructor
  · intro m hrun u hu n hn
    have hresolved := isResolved_of_unresolvedNames (ClassDeclaration.unresolvedNames_of_ready hrun)
    obtain ⟨file, -, -, rfl⟩ := ClassDeclaration.eq_resolvedModel hrun
    obtain ⟨t, ht, hnodes⟩ := ClassDeclaration.nodes_types_resolvedModel hu
    exact hresolved t ht n (hnodes n hn)
  · intro names hrun
    obtain ⟨hne, hnames⟩ := ClassDeclaration.unresolvedNames_of_deferred hrun
    rw [unresolvedNames_eq] at hnames
    subst hnames
    refine ⟨hne, nodup_eraseDups _, rfl, fun name => ?_⟩
    rw [List.mem_eraseDups, mem_unresolvedIn]
    simp only [List.mem_flatMap]
    constructor
    · rintro ⟨n, ⟨t, ht, hn⟩, hname⟩
      exact ⟨t, ht, n, hn, hname⟩
    · rintro ⟨t, ht, n, hn, hname⟩
      exact ⟨n, ⟨t, ht, hn⟩, hname⟩

/-- An interface of users whose items are resolved or not: they stand in what a function returns,
    and as the receiver of what it takes. -/
def ClassDeclaration.ofItems (item : TypeRef) : ClassDeclaration :=
  let each : FunctionType :=
    ⟨some item, [⟨"kotlin.collections.Map", false, [.star, .type item], true, false, none⟩],
      .named "kotlin.Unit", false⟩
  .holding "Users" [
    .getting "users" [⟨"each", ⟨"kotlin.Function2", false, [], true, false, some each⟩, false, []⟩]
      ⟨"kotlin.collections.List", false, [.type item], true, false, none⟩]

def FunctionDeclaration.configured (config : TypeRef) : FunctionDeclaration :=
  .getting "" [⟨"config", config, false, []⟩] (.named "Users")

/-- A name that stands at several places is waited for once, and a model without such a name has
    resolved types only. -/
theorem types_resolved_of_items :
    (∃ log', ((ClassDeclaration.ofItems ⟨"demo.Item", true, [], false, false, none⟩).extract
          [.configured ⟨"demo.Config", false, [], false, false, none⟩]).run.run (.opened "")
        = (.ok (.deferred ["demo.Item", "demo.Config"]), log')
      ∧ ["demo.Item", "demo.Config"].Nodup)
      ∧ ∃ m log', ((ClassDeclaration.ofItems (.named "demo.Item")).extract []).run.run (.opened "")
        = (.ok (.ready m), log') ∧ ∀ t ∈ m.types, t.IsResolved := by
  constructor
  · have hnames : unresolvedNames (.ofItems ⟨"demo.Item", true, [], false, false, none⟩)
        [.configured ⟨"demo.Config", false, [], false, false, none⟩]
          = ["demo.Item", "demo.Config"] := by
      decide +kernel
    obtain ⟨log', hrun⟩ := @ClassDeclaration.extract_of_unresolvedNames _ _ _ rfl rfl rfl rfl
      (by rw [hnames]; exact List.cons_ne_nil _ _) (.opened "")
    rw [hnames] at hrun
    exact ⟨log', hrun, ((types_resolved _ _ _ _).2 _ hrun).2.1⟩
  · have hready : (ClassDeclaration.ofItems (.named "demo.Item")).isReady [] = true := by
      decide +kernel
    obtain ⟨log', hrun⟩ := ClassDeclaration.extract_of_isReady rfl hready (.opened "")
    exact ⟨_, log', hrun, (types_resolved _ _ _ _).1 _ hrun⟩

end ClientGen
