/-
  ClientGen/Proofs/Client/Places.lean
  ===================================
  **Where generated files go.**

  A file goes to the directories of its package, under its name.  Paths are compared by their
  steps (`stepsOf`); as long as no name holds a slash, these give both back
  (`Place.location_injective`).  The places of the files of an interface are read off its
  model (`places_generate`): the main file has the name of the generated class, and each
  function that is declared in another package and takes what the constructor takes has a
  file of its own.
-/
import ClientGen.Proofs.Client.Factories
import ClientGen.Proofs.Client.Growth
import ClientGen.Proofs.Text.Pieces

namespace ClientGen

open ClientGen.Client ClientGen.Text

/-! ### Steps of a path -/

/-- A part leads on when it is neither empty nor a dot. -/
def leadsOn (part : String) : Bool :=
  part != "" && part != "."

/-- What a path starts with: the root, the directory itself or a name. -/
def firstSteps (first : String) (rest : List String) : List String :=
  if first = "" then (if rest = [] then [] else ["/"]) else [first]

/-- The steps of a path, by which paths are compared.  Behind the first one, parts that do not
    lead on do not count. -/
def stepsOf (path : String) : List String :=
  match splitOn '/' path with
  | [] => []
  | first :: rest => firstSteps first rest ++ rest.filter leadsOn

theorem exists_splitOn (sep : Char) (s : String) :
    ∃ first rest, splitOn sep s = first :: rest := by
  cases h : splitOn sep s with
  | nil => exact (pieces_ne_nil sep s.toList (List.map_eq_nil_iff.mp h)).elim
  | cons first rest => exact ⟨first, rest, rfl⟩

theorem stepsOf_cons {path first : String} {rest : List String}
    (h : splitOn '/' path = first :: rest) :
    stepsOf path = firstSteps first rest ++ rest.filter leadsOn := by
  rw [stepsOf, h]

/-- Parts behind a slash add the steps that lead on. -/
theorem stepsOf_append {path : String} (h : path ≠ "") (part : String) :
    stepsOf (path ++ "/" ++ part) = stepsOf path ++ (splitOn '/' part).filter leadsOn := by
  obtain ⟨first, rest, hpath⟩ := exists_splitOn '/' path
  obtain ⟨next, others, hpart⟩ := exists_splitOn '/' part
  have hcut : splitOn '/' (path ++ "/" ++ part) = first :: (rest ++ splitOn '/' part) := by
    rw [show ("/" : String) = String.singleton '/' from rfl, splitOn_append, hpath,
      List.cons_append]
  -- Only the empty path is cut into nothing but an empty part.
  have hfirst : firstSteps first (rest ++ splitOn '/' part) = firstSteps first rest := by
    unfold firstSteps
    by_cases hempty : first = ""
    · have hrest : rest ≠ [] := by
        rintro rfl
        apply h
        rw [← join_splitOn '/' path, hpath, hempty]
        rfl
      rw [if_pos hempty, if_pos hempty, if_neg hrest, if_neg (by rw [hpart]; simp)]
    · rw [if_neg hempty, if_neg hempty]
  rw [stepsOf_cons hcut, stepsOf_cons hpath, hfirst, List.filter_append, List.append_assoc]

/-- A path that ends in a slash goes on with the steps that lead on. -/
theorem stepsOf_slash (front part : String) :
    stepsOf (front ++ "/" ++ part) = stepsOf (front ++ "/") ++ (splitOn '/' part).filter leadsOn := by
  by_cases h : front = ""
  · obtain ⟨next, others, hpart⟩ := exists_splitOn '/' part
    have hcut : splitOn '/' (front ++ "/" ++ part) = "" :: splitOn '/' part := by
      rw [h, show ("/" : String) = String.singleton '/' from rfl, splitOn_append]
      rfl
    rw [stepsOf_cons hcut, h, hpart]
    rfl
  · have hnone := stepsOf_append h ""
    rw [String.append_empty] at hnone
    rw [stepsOf_append h part, hnone]
    simp [splitOn, pieces, leadsOn]

/-- The text is one step of a path. -/
structure IsStep (s : String) : Prop where
  leadsOn : leadsOn s = true
  slashless : '/' ∉ s.toList

theorem IsStep.ne_empty {s : String} (h : IsStep s) : s ≠ "" := by
  rintro rfl
  cases h.leadsOn

theorem IsStep.stepsOf_eq {s : String} (h : IsStep s) : stepsOf s = [s] := by
  rw [stepsOf_cons (splitOn_of_not_mem h.slashless), firstSteps, if_neg h.ne_empty]
  rfl

/-- Continuing a path by one step adds the step. -/
theorem stepsOf_continuePath (path : String) {part : String} (hpart : IsStep part) :
    stepsOf (continuePath path part) = stepsOf path ++ [part] := by
  have hrooted : startsWith part "/" = false := by
    rw [Bool.eq_false_iff]
    intro hstarts
    obtain ⟨rest, rfl⟩ := startsWith_iff.mp hstarts
    exact hpart.slashless (by simp)
  have hlast : (splitOn '/' part).filter leadsOn = [part] := by
    rw [splitOn_of_not_mem hpart.slashless, List.filter_cons_of_pos hpart.leadsOn, List.filter_nil]
  by_cases hempty : path.isEmpty = true
  · rw [continuePath, hrooted, hempty, String.isEmpty_iff.mp hempty]
    exact hpart.stepsOf_eq
  · by_cases hends : endsWith path "/" = true
    · obtain ⟨front, rfl⟩ := endsWith_iff.mp hends
      have hjoined : continuePath (front ++ "/") part = front ++ "/" ++ part := by
        simp [continuePath, hrooted, hempty, hends]
      rw [hjoined, stepsOf_slash, hlast]
    · have hjoined : continuePath path part = path ++ "/" ++ part := by
        simp [continuePath, hrooted, hempty, hends]
      rw [hjoined, stepsOf_append (mt String.isEmpty_iff.mpr hempty), hlast]

theorem stepsOf_foldl_continuePath {parts : List String} (hparts : ∀ p ∈ parts, IsStep p)
    (path : String) : stepsOf (parts.foldl continuePath path) = stepsOf path ++ parts := by
  induction parts generalizing path with
  | nil => exact (List.append_nil _).symm
  | cons part parts ih =>
    obtain ⟨hpart, hparts⟩ := List.forall_mem_cons.mp hparts
    rw [List.foldl_cons, ih hparts, stepsOf_continuePath path hpart, List.append_assoc]
    rfl

/-! ### Places -/

/-- Where a file goes. -/
structure Place where
  directories : List String
  fileName : String
deriving DecidableEq, Repr

def directoriesOf (package : String) : List String :=
  (splitOn '.' package).filter fun part => !part.isEmpty

namespace Place

def path (p : Place) : String :=
  continuePath (p.directories.foldl continuePath "") p.fileName

/-- Where the path to a place leads; files of one location are one file. -/
def location (p : Place) : List String :=
  stepsOf p.path

/-- The names on the way to a place are steps of its path. -/
structure Plain (p : Place) : Prop where
  directories : ∀ d ∈ p.directories, IsStep d
  fileName : IsStep p.fileName

theorem Plain.location_eq {p : Place} (h : p.Plain) :
    p.location = p.directories ++ [p.fileName] := by
  rw [location, path, stepsOf_continuePath _ h.fileName, stepsOf_foldl_continuePath h.directories]
  rfl

/-- Plain places have different locations. -/
theorem location_injective {p q : Place} (hp : p.Plain) (hq : q.Plain)
    (h : p.location = q.location) : p = q := by
  rw [hp.location_eq, hq.location_eq] at h
  obtain ⟨hdirectories, hname⟩ := List.append_inj' h rfl
  cases p
  cases q
  cases hdirectories
  cases hname
  rfl

end Place

theorem isStep_of_mem_directoriesOf {package d : String} (h : '/' ∉ package.toList)
    (hd : d ∈ directoriesOf package) : IsStep d := by
  obtain ⟨hmem, hne⟩ := List.mem_filter.mp hd
  obtain ⟨piece, hpiece, rfl⟩ := List.mem_map.mp hmem
  constructor
  · have hdotless := not_mem_of_mem_pieces hpiece
    rw [leadsOn, Bool.and_eq_true, bne_iff_ne, bne_iff_ne]
    constructor
    · intro hempty
      rw [hempty] at hne
      cases hne
    · intro hdot
      rw [← String.toList_inj, String.toList_ofList] at hdot
      exact hdotless (by rw [hdot]; exact List.mem_singleton_self _)
  · intro hslash
    rw [String.toList_ofList] at hslash
    exact h (mem_of_mem_pieces hpiece hslash)

def Client.SourceFile.place (f : SourceFile) : Place :=
  ⟨directoriesOf f.package, f.fileName⟩

theorem path_place (f : SourceFile) : f.place.path = f.path :=
  rfl

def Client.SourceFile.location (f : SourceFile) : List String :=
  stepsOf f.path

theorem location_place (f : SourceFile) : f.place.location = f.location :=
  congrArg stepsOf (path_place f)

/-! ### Places of an interface -/

def InterfaceModel.mainPlace (m : InterfaceModel) : Place :=
  ⟨directoriesOf m.packageName, m.options.generatedName ++ ".kt"⟩

def ExpectFunction.place (e : ExpectFunction) : Place :=
  ⟨directoriesOf e.packageName, "_" ++ e.name ++ "KmpActual.kt"⟩

/-- The function stands in another package and takes what the constructor takes. -/
def InterfaceModel.isForeign (m : InterfaceModel) (e : ExpectFunction) : Bool :=
  e.packageName != m.packageName && (mismatch? m e).isNone

/-- The declared functions that get a file of their own. -/
def InterfaceModel.foreignActuals (m : InterfaceModel) (o : Options) : List ExpectFunction :=
  if o.experimental then
    (m.expectFunctions.filter fun e => e.isExpect).filter m.isForeign
  else []

def InterfaceModel.places (m : InterfaceModel) (o : Options) : List Place :=
  m.mainPlace :: (m.foreignActuals o).map ExpectFunction.place

/-! ### Files of declared functions -/

section Generation

variable (m : InterfaceModel)

theorem markActual_isHome {key : FactoryKey} {factories : List Factory}
    (h : ∀ f ∈ factories, f.IsHome m) : ∀ f ∈ markActual key factories, f.IsHome m := by
  intro f hf
  rcases mem_markActual hf with hf | ⟨g, hg, rfl⟩
  · exact h f hf
  · exact h g hg

theorem place_actualFile (e : ExpectFunction) : (actualFile m e).place = e.place := by
  unfold actualFile
  cases (writeForeignActual m e).run (.empty e.packageName) with
  | mk function names => rfl

/-- A declared function gets a file of its own exactly when it is foreign: no factory of
    the interface stands in another package. -/
theorem add_writes (a : Actuals) (e : ExpectFunction) (ha : ∀ f ∈ a.factories, f.IsHome m) :
    Writes (a.add m e) fun a' => a'.files = a.files ++ ([e].filter m.isForeign).map (actualFile m)
      ∧ ∀ f ∈ a'.factories, f.IsHome m := by
  unfold Actuals.add
  split
  · rename_i factory hfactory
    have hkey : factory.key = expectKey e := by simpa using List.find?_some hfactory
    have hhome : e.packageName = m.packageName := by
      have hpackage := ha factory (List.mem_of_find?_eq_some hfactory)
      rw [Factory.IsHome, hkey] at hpackage
      exact hpackage
    have hforeign : m.isForeign e = false := by simp [InterfaceModel.isForeign, hhome]
    apply Writes.pure
    exact ⟨by simp [hforeign], markActual_isHome m ha⟩
  · split
    · rename_i problem hproblem
      have hforeign : m.isForeign e = false := by simp [InterfaceModel.isForeign, hproblem]
      apply Writes.pure
      exact ⟨by simp [hforeign], ha⟩
    · rename_i hmatch
      split
      · rename_i hhome
        have hforeign : m.isForeign e = false := by simp [InterfaceModel.isForeign, hhome]
        refine (Writes.trivial _).bind fun function _ => Writes.pure ?_
        exact ⟨by simp [hforeign], ha⟩
      · rename_i hhome
        have hforeign : m.isForeign e = true := by simp [InterfaceModel.isForeign, hhome, hmatch]
        apply Writes.pure
        exact ⟨by simp [hforeign], ha⟩

theorem foldlM_add_writes (es : List ExpectFunction) (a : Actuals)
    (ha : ∀ f ∈ a.factories, f.IsHome m) :
    Writes (es.foldlM (Actuals.add m) a) fun a' =>
      a'.files = a.files ++ (es.filter m.isForeign).map (actualFile m) := by
  induction es generalizing a with
  | nil => exact Writes.pure (by simp)
  | cons e es ih =>
    rw [List.foldlM_cons]
    refine (add_writes m a e ha).bind fun a' ha' => ?_
    obtain ⟨hfiles, hhome⟩ := ha'
    refine (ih a' hhome).imp fun a'' hrest => ?_
    have hsplit : (e :: es).filter m.isForeign = [e].filter m.isForeign ++ es.filter m.isForeign :=
      List.filter_append [e] es
    rw [hrest, hfiles, hsplit, List.map_append, List.append_assoc]

theorem home_generateFactories {registry : FactoryRegistry} {names names' : ImportTable}
    {enrollment : Enrollment} {log log' : Log}
    (hrun : (generateFactories m registry names).run.run log = (.ok (enrollment, names'), log')) :
    ∀ f ∈ enrollment.enrolled, f.IsHome m := by
  obtain ⟨rfl, -⟩ := Prod.mk.inj (generateFactories_ok hrun)
  intro f hf
  exact writeFactories_home m names f (FactoryRegistry.mem_of_mem_enrolled hf)

theorem files_generateActuals {o : Options} {factories : List Factory} {names names' : ImportTable}
    {actuals : Actuals} {log log' : Log} (hhome : ∀ f ∈ factories, f.IsHome m)
    (hrun : (generateActuals m o factories names).run.run log = (.ok (actuals, names'), log')) :
    actuals.files = (m.foreignActuals o).map (actualFile m) := by
  have hok := generateActuals_ok hrun
  unfold InterfaceModel.foreignActuals
  by_cases hexperimental : o.experimental = true
  · rw [if_pos hexperimental] at hok ⊢
    have hfiles := foldlM_add_writes m (m.expectFunctions.filter fun e => e.isExpect)
      (.start factories) hhome names
    change ((writeActuals m factories).run names).1.files = _ at hfiles
    rw [hok] at hfiles
    exact hfiles.trans (List.nil_append _)
  · rw [if_neg hexperimental] at hok ⊢
    obtain ⟨rfl, -⟩ := Prod.mk.inj hok
    rfl

/-- The places of the files of an interface follow from its model. -/
theorem places_generate {o : Options} {registry registry' : FactoryRegistry}
    {files : List SourceFile} {log log' : Log}
    (hrun : (generate m o registry).run.run log = (.ok (files, registry'), log')) :
    files.map SourceFile.place = m.places o := by
  obtain ⟨cls, names₁, log₁, enrollment, names₂, log₂, actuals, final, log₃, -, hfactories,
    hactuals, -, -, rfl, -⟩ := generate_ok hrun
  have hfiles := files_generateActuals m (home_generateFactories m hfactories) hactuals
  have hplaces : SourceFile.place ∘ actualFile m = ExpectFunction.place :=
    funext (place_actualFile m)
  rw [List.map_cons, hfiles, List.map_map, hplaces]
  rfl

end Generation

end ClientGen
