/-
  ClientGen/Proofs/Round/Files.lean
  =================================
  **When the files of a round go to different places.**

  The accepted interfaces of a round decide where its files go (`places_files`).  Files
  are named for the package and the name of a generated class or of a declared function,
  while candidates are told apart by their qualified names.  So two interfaces may well ask
  for the same file, and nothing keeps the second one from overwriting the first
  (`paths_may_repeat`).  `Apart` says of the models exactly when that does not happen.
-/
import ClientGen.Proofs.Client.Places
import ClientGen.Proofs.Round.Accounting
import ClientGen.Proofs.Validation.Acceptance

namespace ClientGen

open ClientGen.Client ClientGen.Text

/-! ### Models of a round -/

/-- The model of a declaration beside the functions of a table. -/
def ClassDeclaration.modelIn (c : ClassDeclaration) (t : SymbolTable) : Option InterfaceModel :=
  c.file.map (c.resolvedModel (t.factoriesOf c.qualifiedName))

/-- The model of a judged candidate, when it was accepted. -/
def Judgement.model? (t : SymbolTable) (j : Judgement) : Option InterfaceModel :=
  match j.verdict with
  | .valid _ => j.candidate.declaration.modelIn t
  | _ => none

/-- The models of the accepted interfaces of a round. -/
def RoundOutput.models (o : RoundOutput) (t : SymbolTable) : List InterfaceModel :=
  o.judged.filterMap (Judgement.model? t)

theorem qualifiedName_of_model? {t : SymbolTable} {j : Judgement} {m : InterfaceModel}
    (h : j.model? t = some m) : m.qualifiedName = j.candidate.declaration.qualifiedName := by
  unfold Judgement.model? at h
  split at h
  · obtain ⟨file, hfile, rfl⟩ := Option.map_eq_some_iff.mp h
    rfl
  · cases h

namespace RoundRules

variable {r : RoundRules} {t : SymbolTable} {registry registry' : FactoryRegistry}
  {c : Candidate} {v : Verdict} {log log' : Log}

theorem Accepts.modelIn {m : InterfaceModel} (h : r.Accepts t c m) :
    c.declaration.modelIn t = some m := by
  obtain ⟨log', hextract⟩ := h.extracted.run (.opened "")
  obtain ⟨file, hfile, -, rfl⟩ := ClassDeclaration.eq_resolvedModel hextract
  rw [ClassDeclaration.modelIn, hfile]
  rfl

/-- The files of an accepted candidate are generated from its model, and nothing is recorded
    behind that. -/
theorem judge_valid (hmode : r.mode = .generate) {files : List SourceFile}
    (h : (r.judge t registry c).run.run log = (.ok (.valid files, registry'), log')) :
    ∃ m before after, r.Accepts t c m
      ∧ (generate m r.options registry).run.run before = (.ok (files, registry'), after)
      ∧ after.records = log'.records := by
  rcases judge_cases h with ⟨m, before, after, haccepts, hfiles, hrecords⟩ | ⟨-, hnone, -⟩
  · simp only [generateFiles, hmode] at hfiles
    obtain ⟨⟨generated, next⟩, between, hgenerate, hreturn⟩ := StepM.ok_of_bind hfiles
    cases hreturn
    exact ⟨m, before, _, haccepts, hgenerate, hrecords⟩
  · exact (hnone files rfl).elim

theorem places_judge (hmode : r.mode = .generate)
    (h : (r.judge t registry c).run.run log = (.ok (v, registry'), log')) :
    (RoundOutput.filesOf v).map SourceFile.place
      = (Judgement.model? t ⟨c, v⟩).toList.flatMap (·.places r.options) := by
  cases v with
  | valid files =>
    obtain ⟨m, before, after, haccepts, hgenerate, -⟩ := judge_valid hmode h
    have hsome : Judgement.model? t ⟨c, .valid files⟩ = some m := haccepts.modelIn
    rw [hsome, Option.toList_some, List.flatMap_singleton]
    exact places_generate m hgenerate
  | dropped => rfl
  | deferred => rfl
  | skipped => rfl

end RoundRules

/-! ### Interfaces that are kept apart -/

/-- The files of interfaces go to different locations. -/
structure Apart (o : Options) (ms : List InterfaceModel) : Prop where
  /-- Two interfaces do not get their generated classes into one file. -/
  interfaces : ∀ m ∈ ms, ∀ m' ∈ ms, m.qualifiedName ≠ m'.qualifiedName →
    m.mainPlace.location ≠ m'.mainPlace.location
  /-- Two functions do not share a file, be it functions of one interface. -/
  functions : (ms.flatMap fun m => m.foreignActuals o).Pairwise fun e e' =>
    e.place.location ≠ e'.place.location
  /-- No generated class goes where a function goes. -/
  mixed : ∀ m ∈ ms, ∀ m' ∈ ms, ∀ e ∈ m'.foreignActuals o,
    m.mainPlace.location ≠ e.place.location

instance (o : Options) (ms : List InterfaceModel) : Decidable (Apart o ms) :=
  decidable_of_iff
    ((∀ m ∈ ms, ∀ m' ∈ ms, m.qualifiedName ≠ m'.qualifiedName →
        m.mainPlace.location ≠ m'.mainPlace.location)
      ∧ ((ms.flatMap fun m => m.foreignActuals o).Pairwise fun e e' : ExpectFunction =>
          e.place.location ≠ e'.place.location)
      ∧ ∀ m ∈ ms, ∀ m' ∈ ms, ∀ e ∈ m'.foreignActuals o,
          m.mainPlace.location ≠ e.place.location)
    ⟨fun h => ⟨h.1, h.2.1, h.2.2⟩, fun h => ⟨h.interfaces, h.functions, h.mixed⟩⟩

section Locations

variable {o : Options} {ms : List InterfaceModel}

theorem nodup_mainPlaces
    (hnames : ms.Pairwise fun m m' => m.qualifiedName ≠ m'.qualifiedName) :
    (ms.map fun m => m.mainPlace.location).Nodup
      ↔ ∀ m ∈ ms, ∀ m' ∈ ms, m.qualifiedName ≠ m'.qualifiedName →
          m.mainPlace.location ≠ m'.mainPlace.location := by
  rw [List.Nodup, List.pairwise_map]
  constructor
  · intro h m hm m' hm' hne
    have hsymm : Std.Symm fun m m' : InterfaceModel =>
        m.mainPlace.location ≠ m'.mainPlace.location := ⟨fun _ _ => Ne.symm⟩
    exact h.forall hm hm' fun heq => hne (congrArg _ heq)
  · intro h
    exact hnames.imp_of_mem fun hm hm' hne => h _ hm _ hm' hne

/-- The files of interfaces of different names go to different locations exactly if the
    interfaces are kept apart. -/
theorem nodup_locations_iff
    (hnames : ms.Pairwise fun m m' => m.qualifiedName ≠ m'.qualifiedName) :
    ((ms.flatMap (·.places o)).map Place.location).Nodup ↔ Apart o ms := by
  -- All main files first, then all functions: the same places in another order.
  have hperm : (ms.map InterfaceModel.mainPlace
      ++ (ms.flatMap fun m => m.foreignActuals o).map ExpectFunction.place).Perm
        (ms.flatMap (·.places o)) := by
    rw [List.map_flatMap]
    exact List.map_append_flatMap_perm ms InterfaceModel.mainPlace _
  rw [← (hperm.map Place.location).nodup_iff, List.map_append, List.map_map, List.map_map]
  simp only [Function.comp_def]
  rw [List.nodup_append', nodup_mainPlaces hnames, List.Nodup, List.pairwise_map]
  constructor
  · rintro ⟨hinterfaces, hfunctions, hdisjoint⟩
    refine ⟨hinterfaces, hfunctions, fun m hm m' hm' e he heq => ?_⟩
    refine hdisjoint (List.mem_map_of_mem hm) ?_
    rw [heq]
    exact List.mem_map_of_mem (List.mem_flatMap_of_mem hm' he)
  · rintro ⟨hinterfaces, hfunctions, hmixed⟩
    refine ⟨hinterfaces, hfunctions, fun l hmain hfunction => ?_⟩
    obtain ⟨m, hm, rfl⟩ := List.mem_map.mp hmain
    obtain ⟨e, he, heq⟩ := List.mem_map.mp hfunction
    obtain ⟨m', hm', he⟩ := List.mem_flatMap.mp he
    exact hmixed m hm m' hm' e he heq.symm

end Locations

/-- Its package and its name hold no slash. -/
def Client.SourceFile.IsSlashless (f : SourceFile) : Prop :=
  '/' ∉ f.package.toList ∧ '/' ∉ f.fileName.toList

theorem isStep_fileName {s : String} (h : '/' ∉ (s ++ ".kt").toList) : IsStep (s ++ ".kt") where
  leadsOn := by
    have hlast : ∀ {t : String}, s ++ ".kt" = t → t.toList.getLast? = some 't' := by
      rintro t rfl
      simp
    rw [leadsOn, Bool.and_eq_true, bne_iff_ne, bne_iff_ne]
    exact ⟨fun h => absurd (hlast h) (by decide), fun h => absurd (hlast h) (by decide)⟩
  slashless := h

/-! ### Rounds -/

namespace Processor

variable {p : Processor} {t : SymbolTable} {o : RoundOutput}

/-- The places of the files of a round, in order. -/
theorem places_files (hrun : (p.process t).1.result = .ok o) :
    o.files.map SourceFile.place = (o.models t).flatMap (·.places p.options) := by
  obtain ⟨-, rfl⟩ := run_eq_ok.mp hrun
  unfold RoundOutput.files RoundOutput.models
  rw [List.map_flatMap, List.filterMap_eq_flatMap_toList, List.flatMap_assoc]
  refine List.flatMap_congr fun j hj => ?_
  obtain ⟨registry, log, registry', log', hjudge, -⟩ := RoundRules.exists_judge hj
  exact RoundRules.places_judge rfl hjudge

/-- No two accepted interfaces of a round have the same name. -/
theorem pairwise_models (hp : p.Reachable) (hnames : t.candidateNames.Nodup)
    (hrun : (p.process t).1.result = .ok o) :
    (o.models t).Pairwise fun m m' => m.qualifiedName ≠ m'.qualifiedName := by
  have hretried : ((p.retried t).map ClassDeclaration.qualifiedName).Nodup :=
    (strict_retried hp.keyed t).nodup
  have hdisjoint : t.candidateNames.Disjoint
      ((p.retried t).map ClassDeclaration.qualifiedName) := by
    intro name hdeclared hpending
    obtain ⟨c, hc, rfl⟩ := List.mem_map.mp hpending
    have hnew := (List.mem_filter.mp hc).2
    rw [List.contains_iff_mem.mpr hdeclared] at hnew
    cases hnew
  have hdeclarations : (o.judged.map fun j => j.candidate.declaration.qualifiedName).Nodup := by
    have hall := hnames.append hretried hdisjoint
    rw [SymbolTable.candidateNames, ← List.map_append, ← declarations_judged hp.keyed hrun,
      List.map_map] at hall
    exact hall
  rw [List.Nodup, List.pairwise_map] at hdeclarations
  refine hdeclarations.filterMap _ fun j j' hne m hm m' hm' => ?_
  rw [qualifiedName_of_model? hm, qualifiedName_of_model? hm']
  exact hne

theorem exists_fileName (hrun : (p.process t).1.result = .ok o) {f : SourceFile}
    (hf : f ∈ o.files) : ∃ s, f.fileName = s ++ ".kt" := by
  have hplace : f.place ∈ o.files.map SourceFile.place := List.mem_map_of_mem hf
  rw [places_files hrun] at hplace
  obtain ⟨m, -, hplace⟩ := List.mem_flatMap.mp hplace
  rcases List.mem_cons.mp hplace with hmain | hactual
  · exact ⟨_, congrArg Place.fileName hmain⟩
  · obtain ⟨e, -, he⟩ := List.mem_map.mp hactual
    refine ⟨"_" ++ e.name ++ "KmpActual", (congrArg Place.fileName he.symm).trans ?_⟩
    simp [ExpectFunction.place, ← String.toList_inj]

theorem plain_place (hrun : (p.process t).1.result = .ok o) {f : SourceFile} (hf : f ∈ o.files)
    (h : f.IsSlashless) : f.place.Plain where
  directories := fun _ hd => isStep_of_mem_directoriesOf h.1 hd
  fileName := by
    obtain ⟨s, hs⟩ := exists_fileName hrun hf
    have hslashless := h.2
    rw [hs] at hslashless
    rw [SourceFile.place, hs]
    exact isStep_fileName hslashless

/-- The files of a round go to different locations exactly if its accepted interfaces are kept
    apart.  Two files without slashes in their names meet exactly if both the directories of
    their packages and their names are the same. -/
theorem locations_distinct_iff (hp : p.Reachable) (hnames : t.candidateNames.Nodup)
    (hrun : (p.process t).1.result = .ok o) :
    ((o.files.map SourceFile.location).Nodup ↔ Apart p.options (o.models t))
      ∧ ∀ f ∈ o.files, ∀ g ∈ o.files, f.IsSlashless → g.IsSlashless →
        (f.location = g.location
          ↔ directoriesOf f.package = directoriesOf g.package ∧ f.fileName = g.fileName) := by
  constructor
  · have hlocations : SourceFile.location = Place.location ∘ SourceFile.place :=
      funext fun f => (location_place f).symm
    rw [← nodup_locations_iff (pairwise_models hp hnames hrun), ← places_files hrun, List.map_map,
      hlocations]
  · intro f hf g hg hslashless hslashless'
    constructor
    · intro h
      rw [← location_place, ← location_place] at h
      have hplace := Place.location_injective (plain_place hrun hf hslashless)
        (plain_place hrun hg hslashless') h
      exact ⟨congrArg Place.directories hplace, congrArg Place.fileName hplace⟩
    · rintro ⟨hdirectories, hname⟩
      have hplace : f.place = g.place := congrArg₂ Place.mk hdirectories hname
      rw [← location_place, ← location_place, hplace]

/-- A factory of the accepted interface that another package declares. -/
def declaredFactory : FunctionDeclaration :=
  { FunctionDeclaration.getting "" [⟨"client", .named TypeName.httpClient, false, []⟩]
      (.named "Users") with
    name := "users"
    packageName := some "platform"
    modifiers := [.expect]
    annotations := [.named "KtorGenFunctionKmp"] }

def multiplatform : SymbolTable :=
  ⟨[acceptedInterface, .holding "Groups" [.getting "groups" [] (.named TypeName.string)]],
    [declaredFactory]⟩

def experimenting : Processor :=
  .start { Options.default with experimental := true } Check.all

/-- The main files and the file of the declared factory go to three places. -/
theorem locations_distinct_of_multiplatform :
    ∃ o : RoundOutput, (experimenting.process multiplatform).1.result = .ok o
      ∧ o.files.map SourceFile.path
          = ["_UsersImpl.kt", "platform/_usersKmpActual.kt", "_GroupsImpl.kt"]
      ∧ (o.files.map SourceFile.location).Nodup := by
  have hround : ((experimenting.process multiplatform).1.result.toOption.any fun o =>
      o.files.map SourceFile.path
          = ["_UsersImpl.kt", "platform/_usersKmpActual.kt", "_GroupsImpl.kt"]
        ∧ Apart experimenting.options (o.models multiplatform)) = true := by
    decide +kernel
  have hnames : multiplatform.candidateNames.Nodup := by
    decide +kernel
  obtain ⟨o, hrun, hpaths, hapart⟩ := ok_of_any hround
  exact ⟨o, hrun, hpaths, (locations_distinct_iff (.start _ _) hnames hrun).1.mpr hapart⟩

/-- Interfaces of one package and one simple name get one file, unless one of them names its
    generated class: the classes that they stand in do not matter. -/
theorem mainPlace_eq_of_simpleName {c c' : ClassDeclaration} {m m' : InterfaceModel}
    (hm : c.modelIn t = some m) (hm' : c'.modelIn t = some m') (hpackage : c.package = c'.package)
    (hsimple : c.simpleName = c'.simpleName) (hunset : isUnset c.settings.name = true)
    (hunset' : isUnset c'.settings.name = true) : m.mainPlace = m'.mainPlace := by
  have hplace : ∀ {c : ClassDeclaration} {m : InterfaceModel}, c.modelIn t = some m →
      isUnset c.settings.name = true →
        m.mainPlace = ⟨directoriesOf c.package, "_" ++ c.simpleName ++ "Impl" ++ ".kt"⟩ := by
    intro c m hm hunset
    obtain ⟨file, -, rfl⟩ := Option.map_eq_some_iff.mp hm
    have hname : nameOr c.settings.name ("_" ++ c.simpleName ++ "Impl")
        = "_" ++ c.simpleName ++ "Impl" := by
      rw [nameOr, hunset, Bool.true_or, if_pos rfl]
    exact congrArg (fun name => Place.mk (directoriesOf c.package) (name ++ ".kt")) hname
  rw [hplace hm hunset, hplace hm' hunset', hpackage, hsimple]

/-- An interface of a name that stands inside a class of its package. -/
def nestedIn (outer : String) : ClassDeclaration :=
  { acceptedInterface with
    qualifiedName := "demo." ++ outer ++ ".Api"
    packageName := some "demo" }

def nested : SymbolTable :=
  ⟨[nestedIn "First", nestedIn "Second"], []⟩

def tokenInterface : ClassDeclaration :=
  { ClassDeclaration.holding "Groups" [.getting "groups" [] (.named TypeName.string)] with
    properties := [⟨"token", .named TypeName.string, false, []⟩] }

/-- An overload of the declared factory that makes the other interface. -/
def overloadingFactory : FunctionDeclaration :=
  { declaredFactory with
    parameters := declaredFactory.parameters ++ [⟨"token", .named TypeName.string, false, []⟩]
    returnType := some (.named "Groups") }

/-- Two interfaces whose factories another package declares under one name. -/
def overloaded : SymbolTable :=
  ⟨[acceptedInterface, tokenInterface], [declaredFactory, overloadingFactory]⟩

/-- Interfaces inside two classes of one package get one file, and so do functions of one name
    that another package declares for two interfaces. -/
theorem paths_may_repeat :
    nested.candidateNames = ["demo.First.Api", "demo.Second.Api"]
      ∧ (∃ o : RoundOutput, ((start .default Check.all).process nested).1.result = .ok o
        ∧ o.files.map SourceFile.path = ["demo/_ApiImpl.kt", "demo/_ApiImpl.kt"])
      ∧ overloaded.candidateNames = ["Users", "Groups"]
      ∧ ∃ o : RoundOutput, (experimenting.process overloaded).1.result = .ok o
        ∧ o.files.map SourceFile.path = ["_UsersImpl.kt", "platform/_usersKmpActual.kt",
            "_GroupsImpl.kt", "platform/_usersKmpActual.kt"] := by
  have hnested : (((start .default Check.all).process nested).1.result.toOption.any fun o =>
      o.files.map SourceFile.path = ["demo/_ApiImpl.kt", "demo/_ApiImpl.kt"]) = true := by
    decide +kernel
  have hoverloaded : ((experimenting.process overloaded).1.result.toOption.any fun o =>
      o.files.map SourceFile.path = ["_UsersImpl.kt", "platform/_usersKmpActual.kt",
        "_GroupsImpl.kt", "platform/_usersKmpActual.kt"]) = true := by
    decide +kernel
  exact ⟨by decide +kernel, ok_of_any hnested, by decide +kernel, ok_of_any hoverloaded⟩

end Processor

end ClientGen
