/-
  ClientGen/Proofs/Client/Factories.lean
  ======================================
  **Factories and the registry of a round.**

  A registry admits keys when they are different from each other and from those that it
  holds, and it refuses a factory exactly when it does not admit the keys
  (`enroll_of_admits`, `admits_of_refused`).  The keys of the factories that an interface
  wants follow from its model alone, whatever names its file has (`writeFactories_keys`).
  Of the enrolled factories, those that are found for a declared function are marked.
-/
import ClientGen.Client.Actual
import ClientGen.Proofs.Imports
import Mathlib.Data.List.Nodup

namespace ClientGen

open ClientGen.Client

/-! ### Registries -/

namespace Client.FactoryRegistry

variable {r : FactoryRegistry} {k : FactoryKey} {ks ks' : List FactoryKey}

def adding (r : FactoryRegistry) (ks : List FactoryKey) : FactoryRegistry :=
  ⟨ks.reverse ++ r.keys⟩

/-- The keys are different from each other and from those of the registry. -/
structure Admits (r : FactoryRegistry) (ks : List FactoryKey) : Prop where
  nodup : ks.Nodup
  fresh : ∀ k ∈ ks, k ∉ r.keys

theorem adding_append : r.adding (ks ++ ks') = (r.adding ks).adding ks' := by
  simp [adding, List.append_assoc]

theorem adding_cons : r.adding (k :: ks) = (r.adding [k]).adding ks :=
  @adding_append r [k] ks

theorem mem_adding : k ∈ (r.adding ks).keys ↔ k ∈ ks ∨ k ∈ r.keys := by
  simp [adding]

theorem admits_nil : r.Admits [] :=
  ⟨List.nodup_nil, fun _ hk => nomatch hk⟩

theorem admits_empty : empty.Admits ks ↔ ks.Nodup :=
  ⟨Admits.nodup, fun h => ⟨h, fun _ _ hk => nomatch hk⟩⟩

/-- Keys are admitted one after another. -/
theorem admits_append : r.Admits (ks ++ ks') ↔ r.Admits ks ∧ (r.adding ks).Admits ks' := by
  constructor
  · intro h
    obtain ⟨hfront, hback, hdisjoint⟩ := List.nodup_append.mp h.nodup
    refine ⟨⟨hfront, fun k hk => h.fresh k (List.mem_append_left _ hk)⟩, hback, ?_⟩
    intro k hk hold
    rcases mem_adding.mp hold with hold | hold
    · exact hdisjoint k hold k hk rfl
    · exact h.fresh k (List.mem_append_right _ hk) hold
  · rintro ⟨hfront, hback⟩
    refine ⟨List.nodup_append.mpr ⟨hfront.nodup, hback.nodup, ?_⟩, fun k hk => ?_⟩
    · rintro k hk _ hk' rfl
      exact hback.fresh k hk' (mem_adding.mpr (.inl hk))
    · rcases List.mem_append.mp hk with hk | hk
      · exact hfront.fresh k hk
      · exact fun hold => hback.fresh k hk (mem_adding.mpr (.inr hold))

theorem admits_cons : r.Admits (k :: ks) ↔ k ∉ r.keys ∧ (r.adding [k]).Admits ks := by
  have hsingle : r.Admits [k] ↔ k ∉ r.keys :=
    ⟨fun h => h.fresh k List.mem_cons_self, fun h => ⟨List.nodup_singleton k, by simpa using h⟩⟩
  rw [← hsingle]
  exact @admits_append r [k] ks

theorem contains_eq_false : r.contains k = false ↔ k ∉ r.keys := by
  rw [contains, Bool.eq_false_iff, ne_eq, List.contains_iff_mem]

theorem register_of_mem (h : k ∈ r.keys) : r.register k = r := by
  rw [register, contains, List.contains_iff_mem.mpr h]
  rfl

theorem register_of_not_mem (h : k ∉ r.keys) : r.register k = r.adding [k] := by
  rw [register, contains_eq_false.mpr h]
  rfl

theorem enroll_cons_of_mem {f : Factory} (fs : List Factory) (h : f.key ∈ r.keys) :
    r.enroll (f :: fs)
      = ⟨(r.enroll fs).registry, (r.enroll fs).enrolled, f :: (r.enroll fs).refused⟩ := by
  have htaken : r.contains f.key = true := List.contains_iff_mem.mpr h
  simp only [enroll, htaken, register_of_mem h, if_true]

theorem enroll_cons_of_not_mem {f : Factory} (fs : List Factory) (h : f.key ∉ r.keys) :
    r.enroll (f :: fs) = ⟨((r.adding [f.key]).enroll fs).registry,
      f :: ((r.adding [f.key]).enroll fs).enrolled, ((r.adding [f.key]).enroll fs).refused⟩ := by
  simp only [enroll, contains_eq_false.mpr h, register_of_not_mem h, Bool.false_eq_true, if_false]

/-- Nothing is refused exactly when the keys are admitted, and then all of them are added. -/
theorem enroll_of_admits {fs : List Factory} (h : r.Admits (fs.map Factory.key)) :
    r.enroll fs = ⟨r.adding (fs.map Factory.key), fs, []⟩ := by
  induction fs generalizing r with
  | nil => rfl
  | cons f fs ih =>
    obtain ⟨hfresh, hrest⟩ := admits_cons.mp h
    rw [enroll_cons_of_not_mem fs hfresh, ih hrest, List.map_cons, ← adding_cons]

theorem admits_of_refused {fs : List Factory} (h : (r.enroll fs).refused = []) :
    r.Admits (fs.map Factory.key) := by
  induction fs generalizing r with
  | nil => exact admits_nil
  | cons f fs ih =>
    by_cases htaken : f.key ∈ r.keys
    · rw [enroll_cons_of_mem fs htaken] at h
      cases h
    · rw [enroll_cons_of_not_mem fs htaken] at h
      exact admits_cons.mpr ⟨htaken, ih h⟩

/-- The keys of what is enrolled are admitted and added. -/
theorem enroll_adds (fs : List Factory) : r.Admits ((r.enroll fs).enrolled.map Factory.key)
    ∧ (r.enroll fs).registry = r.adding ((r.enroll fs).enrolled.map Factory.key) := by
  induction fs generalizing r with
  | nil => exact ⟨admits_nil, rfl⟩
  | cons f fs ih =>
    by_cases htaken : f.key ∈ r.keys
    · rw [enroll_cons_of_mem fs htaken]
      exact ih
    · rw [enroll_cons_of_not_mem fs htaken, List.map_cons]
      obtain ⟨hadmits, hregistry⟩ := @ih (r.adding [f.key])
      exact ⟨admits_cons.mpr ⟨htaken, hadmits⟩, hregistry.trans adding_cons.symm⟩

theorem enrolled_sublist (fs : List Factory) : (r.enroll fs).enrolled.Sublist fs := by
  induction fs generalizing r with
  | nil => exact .slnil
  | cons f fs ih =>
    by_cases htaken : f.key ∈ r.keys
    · rw [enroll_cons_of_mem fs htaken]
      exact ih.cons f
    · rw [enroll_cons_of_not_mem fs htaken]
      exact ih.cons_cons f

theorem enroll_perm (fs : List Factory) :
    ((r.enroll fs).enrolled ++ (r.enroll fs).refused).Perm fs := by
  induction fs generalizing r with
  | nil => exact .nil
  | cons f fs ih =>
    by_cases htaken : f.key ∈ r.keys
    · rw [enroll_cons_of_mem fs htaken]
      exact List.perm_middle.trans (ih.cons f)
    · rw [enroll_cons_of_not_mem fs htaken]
      exact ih.cons f

theorem mem_of_mem_enrolled {f : Factory} {fs : List Factory}
    (h : f ∈ (r.enroll fs).enrolled) : f ∈ fs :=
  (enrolled_sublist fs).subset h

/-- The key of a refused factory was in the registry, or a factory in front of it has it. -/
theorem key_of_refused {fs : List Factory} {f : Factory} (h : f ∈ (r.enroll fs).refused) :
    f.key ∈ r.keys
      ∨ ∃ g ∈ (r.enroll fs).enrolled, g.key = f.key ∧ [g, f].Sublist fs := by
  induction fs generalizing r with
  | nil => cases h
  | cons g fs ih =>
    by_cases htaken : g.key ∈ r.keys
    · rw [enroll_cons_of_mem fs htaken] at h ⊢
      rcases List.mem_cons.mp h with rfl | h
      · exact .inl htaken
      · refine (ih h).imp_right ?_
        rintro ⟨g', hg', hkey, hsublist⟩
        exact ⟨g', hg', hkey, hsublist.cons g⟩
    · rw [enroll_cons_of_not_mem fs htaken] at h ⊢
      have hf : f ∈ fs := (enroll_perm fs).subset (List.mem_append_right _ h)
      rcases ih h with hkey | ⟨g', hg', hkey, hsublist⟩
      · rcases mem_adding.mp hkey with hkey | hkey
        · refine .inr ⟨g, List.mem_cons_self, (List.mem_singleton.mp hkey).symm, ?_⟩
          exact (List.singleton_sublist.mpr hf).cons_cons g
        · exact .inl hkey
      · exact .inr ⟨g', List.mem_cons_of_mem _ hg', hkey, hsublist.cons g⟩

end Client.FactoryRegistry

/-! ### Keys of an interface -/

def InterfaceModel.factoryKeys (m : InterfaceModel) : List FactoryKey :=
  let displays := (factoryParams m).map fun p => p.2.display
  let topLevel := m.options.topLevelFactory.map fun name =>
    ⟨name, m.packageName, displays⟩
  let companion := m.options.companionFactory.bind fun name => m.companion.map fun companion =>
    ⟨name, m.packageName, (m.qualifiedName ++ "." ++ companion.name) :: displays⟩
  let client := m.options.httpClientFactory.map fun name =>
    ⟨name, m.packageName, TypeName.httpClient :: displays.drop 1⟩
  topLevel.toList ++ companion.toList ++ client.toList

section Keys

variable (m : InterfaceModel)

theorem writeFactory_key (interface : String) (kind : FactoryKind) (name : String)
    (receiver : Option Receiver) (params : List (String × TypeRef)) (arguments : List String) :
    Writes (writeFactory m interface kind name receiver params arguments) fun f =>
      f.key = ⟨name, m.packageName,
        (receiver.map Receiver.qualified).toList ++ params.map fun p => p.2.display⟩ := by
  unfold writeFactory
  refine (Writes.trivial _).bind fun annotations _ => ?_
  refine (Writes.trivial _).bind fun written _ => ?_
  exact Writes.pure rfl

/-- The wanted factories have the wanted keys, in order, whatever names the file has. -/
theorem writeFactories_keys :
    Writes (writeFactories m) fun factories => factories.map Factory.key = m.factoryKeys := by
  have hsingle : ∀ (k : FactoryKey) (f : Factory), f.key = k → [f].map Factory.key = [k] := by
    rintro k f rfl
    rfl
  unfold writeFactories
  refine (Writes.trivial _).bind fun interface _ => ?_
  have htopLevel : Writes (writeTopLevelFactory m interface) fun factories =>
      factories.map Factory.key = (m.options.topLevelFactory.map fun name =>
        ⟨name, m.packageName, (factoryParams m).map fun p => p.2.display⟩).toList := by
    unfold writeTopLevelFactory
    cases m.options.topLevelFactory with
    | none => exact Writes.pure rfl
    | some name => exact (writeFactory_key m _ _ _ _ _ _).bind fun f hf => .pure (hsingle _ f hf)
  have hcompanion : Writes (writeCompanionFactory m interface) fun factories =>
      factories.map Factory.key = (m.options.companionFactory.bind fun name =>
        m.companion.map fun companion => ⟨name, m.packageName,
          (m.qualifiedName ++ "." ++ companion.name)
            :: (factoryParams m).map fun p => p.2.display⟩).toList := by
    unfold writeCompanionFactory
    cases m.options.companionFactory with
    | none => exact Writes.pure rfl
    | some name =>
      cases m.companion with
      | none => exact Writes.pure rfl
      | some companion =>
        exact (writeFactory_key m _ _ _ _ _ _).bind fun f hf => .pure (hsingle _ f hf)
  have hclient : Writes (writeClientFactory m interface) fun factories =>
      factories.map Factory.key = (m.options.httpClientFactory.map fun name =>
        ⟨name, m.packageName,
          TypeName.httpClient :: ((factoryParams m).map fun p => p.2.display).drop 1⟩).toList := by
    unfold writeClientFactory
    cases m.options.httpClientFactory with
    | none => exact Writes.pure rfl
    | some name =>
      refine (Writes.trivial _).bind fun client _ => ?_
      refine (writeFactory_key m _ _ _ _ _ _).bind fun f hf => .pure (hsingle _ f ?_)
      rw [hf, List.map_drop]
      rfl
  refine htopLevel.bind fun topLevel htop => ?_
  refine hcompanion.bind fun companion hcomp => ?_
  refine hclient.bind fun client hcli => Writes.pure ?_
  rw [List.map_append, List.map_append, htop, hcomp, hcli]
  rfl

def Client.Factory.IsHome (f : Factory) : Prop :=
  f.key.package = m.packageName

/-- The wanted factories stand in the package of the interface. -/
theorem writeFactories_home :
    Writes (writeFactories m) fun factories => ∀ f ∈ factories, f.IsHome m := by
  have hpackage : ∀ k ∈ m.factoryKeys, k.package = m.packageName := by
    intro k hk
    simp only [InterfaceModel.factoryKeys, List.mem_append, Option.mem_toList,
      Option.map_eq_some_iff, Option.bind_eq_some_iff] at hk
    rcases hk with (⟨_, -, rfl⟩ | ⟨_, -, _, -, rfl⟩) | ⟨_, -, rfl⟩
    · rfl
    · rfl
    · rfl
  refine (writeFactories_keys m).imp fun factories hkeys f hf => hpackage f.key ?_
  rw [← hkeys]
  exact List.mem_map_of_mem hf

end Keys

/-! ### Marked factories -/

theorem markActual_mem {key : FactoryKey} {f : Factory} {fs : List Factory} (hf : f ∈ fs) :
    f ∈ markActual key fs ∨ f.asActual ∈ markActual key fs := by
  induction fs with
  | nil => cases hf
  | cons g fs ih =>
    rw [markActual]
    split
    · rcases List.mem_cons.mp hf with rfl | hf
      · exact .inr List.mem_cons_self
      · exact .inl (List.mem_cons_of_mem _ hf)
    · rcases List.mem_cons.mp hf with rfl | hf
      · exact .inl List.mem_cons_self
      · exact (ih hf).imp (List.mem_cons_of_mem _) (List.mem_cons_of_mem _)

theorem mem_markActual {key : FactoryKey} {f : Factory} {fs : List Factory}
    (hf : f ∈ markActual key fs) : f ∈ fs ∨ ∃ g ∈ fs, f = g.asActual := by
  induction fs with
  | nil => cases hf
  | cons g fs ih =>
    rw [markActual] at hf
    split at hf
    · rcases List.mem_cons.mp hf with rfl | hf
      · exact .inr ⟨g, List.mem_cons_self, rfl⟩
      · exact .inl (List.mem_cons_of_mem _ hf)
    · rcases List.mem_cons.mp hf with rfl | hf
      · exact .inl List.mem_cons_self
      · rcases ih hf with hf | ⟨h, hh, rfl⟩
        · exact .inl (List.mem_cons_of_mem _ hf)
        · exact .inr ⟨h, List.mem_cons_of_mem _ hh, rfl⟩

/-- The factory that is found by its key is the one that is marked. -/
theorem asActual_mem_markActual {key : FactoryKey} {f : Factory} {fs : List Factory}
    (hf : (fs.find? fun f => f.key == key) = some f) : f.asActual ∈ markActual key fs := by
  induction fs with
  | nil => cases hf
  | cons g fs ih =>
    rw [List.find?_cons] at hf
    rw [markActual]
    by_cases hkey : g.key = key
    · rw [if_pos hkey]
      rw [hkey, beq_self_eq_true] at hf
      cases hf
      exact List.mem_cons_self
    · rw [if_neg hkey]
      rw [beq_eq_false_iff_ne.mpr hkey] at hf
      exact List.mem_cons_of_mem _ (ih hf)

end ClientGen
