/-
  ClientGen/Proofs/Client/OwnActuals.lean
  =======================================
  **Which function becomes the `actual` of a declared one.**

  A declared function has no receiver.  Where no request of the interface has its key, or
  the first one that has it asks for a function without a receiver, there is exactly one
  `actual` of its name and package, and it has the declared signature (`own_actual`).  But
  the key of an extension counts its receiver as a parameter, so an extension of the client
  can have the key of a function that takes the client; it is marked then and nothing stands
  behind the declared function (`extension_may_be_marked`).
-/
import ClientGen.Proofs.Client.FactoryParameters
import ClientGen.Proofs.Client.Signatures

namespace ClientGen

open ClientGen.Client ClientGen.Client.FactoryRegistry ClientGen.Code

/-! ### Functions that are marked -/

/-- The function is an `actual` of this name, and extends nothing. -/
def isActualNamed (name : String) (g : Code.Function) : Bool :=
  g.modifiers.contains actualWord && (g.name == name && g.receiver.isNone)

theorem IsActualOf.isActualNamed_eq {m : InterfaceModel} {final : ImportTable} {e : ExpectFunction}
    {g : Code.Function} (h : IsActualOf m final e g) (name : String) :
    isActualNamed name g = (e.name == name) := by
  have hname : g.name = e.name := h.signature.name
  have hreceiver : g.receiver = none := h.signature.receiver_eq_none.mpr rfl
  simp [isActualNamed, h.isActual, hname, hreceiver]

/-- The functions that could stand behind a declared one: those of its package that are
    marked, have its name and extend nothing. -/
def actualsOf (files : List SourceFile) (e : ExpectFunction) : List Code.Function :=
  (files.filter fun file => file.package == e.packageName).flatMap fun file =>
    file.file.functions.filter (isActualNamed e.name)

/-- One function could stand behind the declared one, and it has the declared signature. -/
def HasOwnActual (m : InterfaceModel) (files : List SourceFile) (e : ExpectFunction) : Prop :=
  ∃ file ∈ files, file.package = e.packageName
    ∧ ∃ final : ImportTable, final.package = file.file.package ∧ final.lines = file.file.imports
      ∧ ∃ g ∈ file.file.functions, IsActualOf m final e g ∧ actualsOf files e = [g]

/-- The first request with the key of a declared function. -/
def InterfaceModel.match? (m : InterfaceModel) (e : ExpectFunction) : Option FactoryRequest :=
  m.requests.find? fun r => r.signature.key == expectKey e

/-- The extension of the request is marked in the main file. -/
def MarksExtension (m : InterfaceModel) (files : List SourceFile) (r : FactoryRequest) : Prop :=
  ∃ file ∈ files, file.package = m.packageName
    ∧ ∃ final : ImportTable, final.package = file.file.package ∧ final.lines = file.file.imports
      ∧ ∃ g ∈ file.file.functions, actualWord ∈ g.modifiers ∧ g.receiver ≠ none
        ∧ HasSignature final g r.signature

/-- Whatever could stand behind the declared function has another signature. -/
def LacksOwnActual (files : List SourceFile) (e : ExpectFunction) : Prop :=
  ∀ file ∈ files, file.package = e.packageName →
    ∃ final : ImportTable, final.package = file.file.package ∧ final.lines = file.file.imports
      ∧ ∀ g ∈ file.file.functions, isActualNamed e.name g = true →
          ∃ s : Signature, s.key ≠ expectKey e ∧ HasSignature final g s

/-! ### Lists -/

section Lists

variable {α β : Type} {xs : List α}

/-- Where one element has a value, the elements with that value are this one. -/
theorem filter_eq_singleton [DecidableEq β] {f : α → β} {zs : List α} {x : α} {p : α → Bool}
    (hsub : xs.Sublist zs) (hcount : (zs.map f).count (f x) = 1) (hx : x ∈ xs)
    (hp : ∀ y ∈ xs, p y = true ↔ f y = f x) : xs.filter p = [x] := by
  have hfilter : xs.filter p = xs.filter fun y => f y == f x := by
    refine List.filter_congr fun y hy => ?_
    rw [Bool.eq_iff_iff, hp y hy, beq_iff_eq]
  have hmem : x ∈ xs.filter p := List.mem_filter.mpr ⟨hx, (hp x hx).mpr rfl⟩
  have hlength : (xs.filter p).length ≤ 1 := by
    have hle := (hsub.map f).count_le (f x)
    rw [hcount, List.count_eq_countP, List.countP_map, List.countP_eq_length_filter] at hle
    rw [hfilter]
    exact hle
  match hrest : xs.filter p with
  | [] => rw [hrest] at hmem; cases hmem
  | [y] => rw [hrest] at hmem; rw [List.mem_singleton.mp hmem]
  | y :: z :: rest => rw [hrest] at hlength; simp at hlength

end Lists

theorem find?_enrolled {registry : FactoryRegistry} {k : FactoryKey} (hk : k ∉ registry.keys)
    (fs : List Factory) :
    (registry.enroll fs).enrolled.find? (fun f => f.key == k)
      = fs.find? fun f => f.key == k := by
  induction fs generalizing registry with
  | nil => rfl
  | cons f fs ih =>
    by_cases htaken : f.key ∈ registry.keys
    · have hne : (f.key == k) = false := by
        rw [beq_eq_false_iff_ne]
        rintro rfl
        exact hk htaken
      rw [enroll_cons_of_mem fs htaken, List.find?_cons, hne]
      exact ih hk
    · rw [enroll_cons_of_not_mem fs htaken, List.find?_cons, List.find?_cons]
      by_cases hkey : f.key = k
      · rw [beq_iff_eq.mpr hkey]
      · rw [beq_eq_false_iff_ne.mpr hkey]
        refine ih fun hadded => ?_
        rcases mem_adding.mp hadded with hsame | hold
        · exact hkey (List.mem_singleton.mp hsame).symm
        · exact hk hold

/-! ### Keys of declared functions -/

section Keys

variable {m : InterfaceModel} {e : ExpectFunction} {r : FactoryRequest}

theorem constructorTypes_eq (m : InterfaceModel) :
    m.constructorTypes = (constructorParams m).map fun p => p.type.display := by
  have hlength : ((constructorParams m).map ConstructorParam.type).length
      ≤ (factoryParamNames ((constructorParams m).map ConstructorParam.name)).length := by
    simp
  have hzip : (factoryParams m).map Prod.snd = (constructorParams m).map ConstructorParam.type :=
    List.map_snd_zip hlength
  have hdisplay := congrArg (List.map TypeRef.display) hzip
  rw [List.map_map, List.map_map] at hdisplay
  exact hdisplay

theorem typeMismatch?_eq_none {name : String} {position : Nat} {ps : List ConstructorParam}
    {qs : List (String × TypeRef)} (hlength : ps.length = qs.length)
    (h : typeMismatch? name position ps qs = none) :
    (qs.map fun q => q.2.display) = ps.map fun p => p.type.display := by
  induction ps generalizing position qs with
  | nil =>
    rw [List.length_eq_zero_iff.mp hlength.symm]
    rfl
  | cons p ps ih =>
    cases qs with
    | nil => cases hlength
    | cons q qs =>
      rw [typeMismatch?] at h
      split at h
      · rename_i hsame
        rw [List.map_cons, List.map_cons, ih (Nat.succ.inj hlength) h, eq_of_beq hsame]
      · cases h

theorem key_of_mismatch?_eq_none (h : mismatch? m e = none) :
    expectKey e = ⟨e.name, e.packageName, m.constructorTypes⟩ := by
  unfold mismatch? at h
  simp only at h
  split at h
  · cases h
  · rename_i hlength
    rw [expectKey, constructorTypes_eq, typeMismatch?_eq_none (by simpa using hlength) h]

theorem expectKey_eq_iff {e' : ExpectFunction} (h : mismatch? m e = none)
    (h' : mismatch? m e' = none) :
    expectKey e = expectKey e' ↔ e.packageName = e'.packageName ∧ e.name = e'.name := by
  rw [key_of_mismatch?_eq_none h, key_of_mismatch?_eq_none h']
  simp [and_comm]

/-- Only the factory at the top level extends nothing, and it takes what the constructor
    takes. -/
theorem topLevel_of_receiver (hr : r ∈ m.requests) (hreceiver : r.signature.receiver = none) :
    r.kind = .topLevel
      ∧ r.signature.key = ⟨r.signature.name, m.packageName, m.constructorTypes⟩ := by
  have hkind := request?_of_mem hr
  cases h : r.kind with
  | topLevel =>
    rw [h] at hkind
    obtain ⟨name, -, rfl⟩ := Option.map_eq_some_iff.mp hkind
    exact ⟨rfl, rfl⟩
  | companion =>
    rw [h] at hkind
    obtain ⟨name, -, hkind⟩ := Option.bind_eq_some_iff.mp hkind
    obtain ⟨companion, -, rfl⟩ := Option.map_eq_some_iff.mp hkind
    cases hreceiver
  | httpClient =>
    rw [h] at hkind
    obtain ⟨name, -, rfl⟩ := Option.map_eq_some_iff.mp hkind
    cases hreceiver

theorem count_kind (hr : r ∈ m.requests) :
    (m.requests.map FactoryRequest.kind).count r.kind = 1 := by
  have hkinds : (m.requests.map FactoryRequest.kind).Nodup := by
    unfold InterfaceModel.requests InterfaceModel.request?
    cases m.options.topLevelFactory <;> cases m.options.companionFactory <;>
      cases m.companion <;> cases m.options.httpClientFactory <;> simp
  exact List.count_eq_one_of_mem hkinds (List.mem_map_of_mem hr)

theorem signature_eq_of_key {s : Signature} (hreceiver : s.receiver = none)
    (hkey : s.key = expectKey e) : s = e.signature := by
  obtain ⟨name, package, receiver, types⟩ := s
  cases hreceiver
  cases hkey
  rfl

theorem match?_eq_some (h : m.match? e = some r) :
    r ∈ m.requests ∧ r.signature.key = expectKey e :=
  ⟨List.mem_of_find?_eq_some h, by simpa using List.find?_some h⟩

theorem match?_eq_none (h : m.match? e = none) (hr : r ∈ m.requests) :
    r.signature.key ≠ expectKey e := by
  simpa using List.find?_eq_none.mp h r hr

end Keys

/-! ### Files of their own -/

section Foreign

variable {m : InterfaceModel} {e e' : ExpectFunction} {es : List ExpectFunction}

theorem isForeign_eq_true :
    m.isForeign e = true ↔ e.packageName ≠ m.packageName ∧ mismatch? m e = none := by
  simp [InterfaceModel.isForeign]

theorem exists_functions_actualFile (m : InterfaceModel) (e : ExpectFunction) :
    ∃ final : ImportTable, final.package = (actualFile m e).file.package
      ∧ final.lines = (actualFile m e).file.imports
      ∧ ∃ g, (actualFile m e).file.functions = [g] ∧ IsActualOf m final e g := by
  have hwrites : Lasts (writeForeignActual m e) fun final g => IsActualOf m final e g := by
    unfold writeForeignActual
    refine (writeActual_isActualOf m e).bind fun g => ?_
    refine (Lasts.of_grows (Grows.name _)).bind fun _ => ?_
    exact Lasts.pure fun final _ hg => hg
  have hholds := hwrites.holds (.empty e.packageName)
  have hgrows := hwrites.grows (.empty e.packageName)
  unfold actualFile
  cases hrun : (writeForeignActual m e).run (.empty e.packageName) with
  | mk g names =>
    rw [hrun] at hholds hgrows
    exact ⟨names, hgrows.package, rfl, g, rfl, hholds names (.refl names)⟩

theorem package_actualFile (m : InterfaceModel) (e : ExpectFunction) :
    (actualFile m e).package = e.packageName := by
  unfold actualFile
  cases (writeForeignActual m e).run (.empty e.packageName) with
  | mk g names => rfl

/-- The second function is declared in the package and with the name of the first one. -/
def standsBeside (e e' : ExpectFunction) : Bool :=
  e'.packageName == e.packageName && e'.name == e.name

theorem standsBeside_eq_true :
    standsBeside e e' = true ↔ e'.packageName = e.packageName ∧ e'.name = e.name := by
  simp [standsBeside]

theorem actualsOf_cons (file : SourceFile) (files : List SourceFile) (e : ExpectFunction) :
    actualsOf (file :: files) e
      = (if file.package = e.packageName then file.file.functions.filter (isActualNamed e.name)
          else []) ++ actualsOf files e := by
  unfold actualsOf
  by_cases h : file.package = e.packageName
  · rw [List.filter_cons_of_pos (by simpa using h), List.flatMap_cons, if_pos h]
  · rw [List.filter_cons_of_neg (by simpa using h), if_neg h, List.nil_append]

theorem actualsOf_foreign (m : InterfaceModel) (es : List ExpectFunction) (e : ExpectFunction) :
    actualsOf (es.map (actualFile m)) e
      = (es.filter (standsBeside e)).flatMap fun e' => (actualFile m e').file.functions := by
  induction es with
  | nil => rfl
  | cons e' es ih =>
    obtain ⟨final, -, -, g, hfunctions, hactual⟩ := exists_functions_actualFile m e'
    have hnamed := hactual.isActualNamed_eq e.name
    rw [List.map_cons, actualsOf_cons, package_actualFile, ih, hfunctions]
    by_cases hpackage : e'.packageName = e.packageName
    · by_cases hname : e'.name = e.name
      · rw [if_pos hpackage, List.filter_cons_of_pos (standsBeside_eq_true.mpr ⟨hpackage, hname⟩),
          List.flatMap_cons, hfunctions, List.filter_cons_of_pos (by rw [hnamed]; simpa using hname)]
        rfl
      · rw [if_pos hpackage, List.filter_cons_of_neg (by rw [hnamed]; simpa using hname),
          List.filter_cons_of_neg fun h => hname (standsBeside_eq_true.mp h).2]
        rfl
    · rw [if_neg hpackage, List.filter_cons_of_neg fun h => hpackage (standsBeside_eq_true.mp h).1]
      rfl

/-- A function in another package stands in its own file and nowhere else. -/
theorem hasOwnActual_of_file {main : SourceFile} (hmain : main.package = m.packageName)
    (hforeign : e.packageName ≠ m.packageName) (he : e ∈ es)
    (honly : es.filter (standsBeside e) = [e]) :
    HasOwnActual m (main :: es.map (actualFile m)) e := by
  obtain ⟨final, hnames, hlines, g, hfunctions, hactual⟩ := exists_functions_actualFile m e
  have hmem : actualFile m e ∈ main :: es.map (actualFile m) :=
    List.mem_cons_of_mem _ (List.mem_map_of_mem he)
  refine ⟨actualFile m e, hmem, package_actualFile m e, final, hnames, hlines, g, ?_, hactual, ?_⟩
  · rw [hfunctions]
    exact List.mem_cons_self
  · rw [actualsOf_cons, if_neg (by rw [hmain]; exact hforeign.symm), actualsOf_foreign, honly,
      List.flatMap_singleton, hfunctions]
    rfl

end Foreign

/-! ### Functions of the main file -/

section Main

variable {m : InterfaceModel} {o : Options} {registry registry' : FactoryRegistry}
  {files : List SourceFile} {log log' : Log} {wanted : List Factory} {final : ImportTable}
  {actuals : Actuals} {e : ExpectFunction} {r : FactoryRequest} {rs : List FactoryRequest}
  {fs : List Factory} {es : List ExpectFunction}

/-- Where the keys of the interface are free, the first request of a key is granted. -/
theorem Generated.mem_granted
    (h : Generated m o registry registry' files log wanted final actuals)
    (hfresh : ∀ k ∈ m.factoryKeys, k ∉ registry.keys) (hrs : rs.Sublist m.requests)
    (henrolled : List.Forall₂ (IsWrittenFor m final) rs (registry.enroll wanted).enrolled)
    (hr : m.match? e = some r) : r ∈ rs := by
  obtain ⟨hmem, hkey⟩ := match?_eq_some hr
  have hfree : expectKey e ∉ registry.keys := by
    apply hfresh
    rw [← requests_keys, ← hkey]
    exact List.mem_map_of_mem hmem
  have hsame : ∀ r f, IsWrittenFor m final r f →
      (r.signature.key == expectKey e) = (f.key == expectKey e) := by
    intro r f hf
    rw [hf.key]
  rcases find?_of_forall₂ h.requested hsame with ⟨hnone, -⟩ | ⟨r', f, hr', hf, hrf⟩
  · rw [InterfaceModel.match?, hnone] at hr
    cases hr
  · rw [InterfaceModel.match?, hr'] at hr
    cases hr
    rw [← find?_enrolled hfree] at hf
    obtain ⟨r', hr', hrf'⟩ := exists_mem_of_forall₂ henrolled.flip (List.mem_of_find?_eq_some hf)
    rw [eq_of_isWrittenFor hmem (hrs.subset hr') hrf hrf']
    exact hr'

/-- The requests of a name that extend nothing. -/
def plainlyNamed (name : String) (r : FactoryRequest) : Bool :=
  r.signature.name == name && r.signature.receiver.isNone

theorem filter_plainlyNamed (hrs : rs.Sublist m.requests) (hr : r ∈ rs)
    (hreceiver : r.signature.receiver = none) :
    rs.filter (plainlyNamed r.signature.name) = [r] := by
  have hkind := (topLevel_of_receiver (hrs.subset hr) hreceiver).1
  refine filter_eq_singleton hrs (count_kind (hrs.subset hr)) hr fun r' hr' => ?_
  constructor
  · intro hplain
    have hnone : r'.signature.receiver = none := by
      simpa using ((Bool.and_eq_true _ _).mp hplain).2
    rw [hkind]
    exact (topLevel_of_receiver (hrs.subset hr') hnone).1
  · intro hsame
    have hrequest := request?_of_mem (hrs.subset hr')
    rw [hsame, request?_of_mem (hrs.subset hr)] at hrequest
    cases hrequest
    simp [plainlyNamed, hreceiver]

theorem filter_factories (h : List.Forall₂ (IsMarkedFor m final es) rs fs) (name : String) :
    ∃ gs, List.Forall₂ (IsMarkedFor m final es) (rs.filter (plainlyNamed name)) gs
      ∧ (fs.map Factory.function).filter (isActualNamed name)
        = (gs.filter fun f => f.function.modifiers.contains actualWord).map Factory.function := by
  refine ⟨fs.filter fun f => f.function.name == name && f.function.receiver.isNone, ?_, ?_⟩
  · refine List.rel_filter (fun r f hf => ?_) h
    have hreceiver := hf.signature.receiver_eq_none
    simp only [plainlyNamed, hf.signature.name, Bool.and_eq_true, Option.isNone_iff_eq_none,
      hreceiver]
  · rw [List.filter_map, List.filter_filter]
    rfl

theorem Generated.filter_functions
    (h : Generated m o registry registry' files log wanted final actuals) (name : String) :
    List.Forall₂ (IsActualOf m final)
      (((m.expected o).filter (m.isOwn ((registry.enroll wanted).enrolled.map Factory.key))).filter
        fun e => e.name == name)
      (actuals.functions.filter (isActualNamed name)) := by
  obtain ⟨gs, hgs, hown⟩ := h.added.functions
  rw [hgs, Actuals.start, List.nil_append]
  refine List.rel_filter (fun e g hg => ?_) hown
  simp only [hg.isActualNamed_eq name]

theorem keys_of_isWrittenFor (h : List.Forall₂ (IsWrittenFor m final) rs fs) :
    fs.map Factory.key = rs.map fun r => r.signature.key := by
  rw [← List.forall₂_eq_eq_eq, List.forall₂_map_left_iff, List.forall₂_map_right_iff]
  exact h.flip.imp fun f r hf => hf.key

theorem Generated.not_mem_enrolled
    (h : Generated m o registry registry' files log wanted final actuals)
    (hr : m.match? e = none) :
    expectKey e ∉ (registry.enroll wanted).enrolled.map Factory.key := by
  obtain ⟨rs, hrs, henrolled, -⟩ := h.exists_granted
  rw [keys_of_isWrittenFor henrolled]
  intro htaken
  obtain ⟨r, hr', hkey⟩ := List.mem_map.mp htaken
  exact match?_eq_none hr (hrs.subset hr') hkey

theorem Generated.exists_main
    (h : Generated m o registry registry' files log wanted final actuals) :
    ∃ main : SourceFile, files = main :: (m.foreignActuals o).map (actualFile m)
      ∧ main.package = m.packageName
      ∧ final.package = main.file.package ∧ final.lines = main.file.imports
      ∧ main.file.functions = actuals.factories.map Factory.function ++ actuals.functions := by
  obtain ⟨cls, hfiles⟩ := h.files
  exact ⟨_, hfiles, rfl, h.package, rfl, rfl⟩

/-- In the package of the interface only the main file can hold what stands behind a
    declared function. -/
theorem Generated.hasOwnActual_of_home
    (h : Generated m o registry registry' files log wanted final actuals)
    (hhome : e.packageName = m.packageName) {g : Code.Function} (hactual : IsActualOf m final e g)
    (honly : (actuals.factories.map Factory.function).filter (isActualNamed e.name)
      ++ actuals.functions.filter (isActualNamed e.name) = [g]) : HasOwnActual m files e := by
  obtain ⟨main, rfl, hmain, hnames, hlines, hfunctions⟩ := h.exists_main
  have hpackage : main.package = e.packageName := hmain.trans hhome.symm
  have hothers : (m.foreignActuals o).filter (standsBeside e) = [] := by
    refine List.filter_eq_nil_iff.mpr fun e' he' hsame => ?_
    rw [foreignActuals_eq] at he'
    have hother := (isForeign_eq_true.mp (List.mem_filter.mp he').2).1
    exact hother ((standsBeside_eq_true.mp hsame).1.trans hhome)
  have hfilter : main.file.functions.filter (isActualNamed e.name) = [g] := by
    rw [hfunctions, List.filter_append, honly]
  have hg : g ∈ main.file.functions := by
    refine List.mem_of_mem_filter (p := isActualNamed e.name) ?_
    rw [hfilter]
    exact List.mem_cons_self
  refine ⟨main, List.mem_cons_self, hpackage, final, hnames, hlines, g, hg, hactual, ?_⟩
  rw [actualsOf_cons, if_pos hpackage, hfilter, actualsOf_foreign, hothers]
  rfl

/-- Where the first request with the key of a declared function extends nothing, its factory
    is marked, and no function is written beside it. -/
theorem Generated.hasOwnActual_of_topLevel
    (h : Generated m o registry registry' files log wanted final actuals)
    (hfresh : ∀ k ∈ m.factoryKeys, k ∉ registry.keys) (he : e ∈ m.expected o)
    (hr : m.match? e = some r) (hreceiver : r.signature.receiver = none) :
    HasOwnActual m files e := by
  obtain ⟨rs, hrs, henrolled, hmarked⟩ := h.exists_granted
  have hgranted := h.mem_granted hfresh hrs henrolled hr
  obtain ⟨hmem, hkey⟩ := match?_eq_some hr
  have hsignature : r.signature = e.signature := signature_eq_of_key hreceiver hkey
  have hname : r.signature.name = e.name := congrArg Signature.name hsignature
  have hshape := (topLevel_of_receiver hmem hreceiver).2
  rw [hkey, hname] at hshape
  obtain ⟨fs, hfs, hfactories⟩ := filter_factories hmarked e.name
  rw [← hname, filter_plainlyNamed hrs hgranted hreceiver] at hfs
  obtain ⟨f, rfl, hf⟩ := eq_singleton_of_forall₂ hfs
  have hactual : actualWord ∈ f.function.modifiers := hf.marked e he hkey
  -- A function beside it would have the same name, so its key would be that of the request.
  have hnone : actuals.functions.filter (isActualNamed e.name) = [] := by
    have hfunctions := h.filter_functions e.name
    rw [List.filter_eq_nil_iff.mpr] at hfunctions
    · exact List.forall₂_nil_left_iff.mp hfunctions
    · intro e' he' hsame
      obtain ⟨hfree, hmatch, hpackage⟩ := isOwn_eq_true.mp (List.mem_filter.mp he').2
      apply hfree
      rw [key_of_mismatch?_eq_none hmatch, eq_of_beq hsame, hpackage, ← hshape, ← hkey,
        keys_of_isWrittenFor henrolled]
      exact List.mem_map_of_mem hgranted
  refine h.hasOwnActual_of_home (congrArg FactoryKey.package hshape) (g := f.function)
    ⟨hactual, hsignature ▸ hf.signature, hf.constructs⟩ ?_
  rw [hfactories, hnone, List.append_nil, List.filter_cons_of_pos (by simpa using hactual)]
  rfl

/-- Where no request has the key of a declared function, a function is written for it in the
    main file, unless its package is another one. -/
theorem Generated.hasOwnActual_of_own
    (h : Generated m o registry registry' files log wanted final actuals)
    (he : e ∈ m.expected o) (hcount : ((m.expected o).map expectKey).count (expectKey e) = 1)
    (hr : m.match? e = none) (hmatch : mismatch? m e = none)
    (hhome : e.packageName = m.packageName) : HasOwnActual m files e := by
  obtain ⟨rs, hrs, -, hmarked⟩ := h.exists_granted
  obtain ⟨fs, hfs, hfactories⟩ := filter_factories hmarked e.name
  -- A factory of its name that extends nothing would have its key.
  have hplain : rs.filter (plainlyNamed e.name) = [] := by
    refine List.filter_eq_nil_iff.mpr fun r hr' hnamed => ?_
    obtain ⟨hname, hreceiver⟩ := (Bool.and_eq_true _ _).mp hnamed
    apply match?_eq_none hr (hrs.subset hr')
    rw [(topLevel_of_receiver (hrs.subset hr') (by simpa using hreceiver)).2,
      key_of_mismatch?_eq_none hmatch, hhome, eq_of_beq hname]
  rw [hplain] at hfs
  rw [List.forall₂_nil_left_iff.mp hfs] at hfactories
  have hown : m.isOwn ((registry.enroll wanted).enrolled.map Factory.key) e = true :=
    isOwn_eq_true.mpr ⟨h.not_mem_enrolled hr, hmatch, hhome⟩
  have hfunctions := h.filter_functions e.name
  rw [filter_eq_singleton List.filter_sublist hcount (List.mem_filter.mpr ⟨he, hown⟩)]
    at hfunctions
  · obtain ⟨g, hgs, hg⟩ := eq_singleton_of_forall₂ hfunctions
    refine h.hasOwnActual_of_home hhome hg ?_
    rw [hfactories, hgs]
    rfl
  · intro e' he'
    obtain ⟨-, hmatch', hhome'⟩ := isOwn_eq_true.mp (List.mem_filter.mp he').2
    rw [expectKey_eq_iff hmatch' hmatch, hhome', hhome]
    simp

theorem Generated.hasOwnActual_of_foreign
    (h : Generated m o registry registry' files log wanted final actuals)
    (he : e ∈ m.expected o) (hcount : ((m.expected o).map expectKey).count (expectKey e) = 1)
    (hmatch : mismatch? m e = none) (hother : e.packageName ≠ m.packageName) :
    HasOwnActual m files e := by
  obtain ⟨main, rfl, hmain, -, -, -⟩ := h.exists_main
  have hforeign : e ∈ (m.expected o).filter m.isForeign :=
    List.mem_filter.mpr ⟨he, isForeign_eq_true.mpr ⟨hother, hmatch⟩⟩
  rw [foreignActuals_eq]
  refine hasOwnActual_of_file hmain hother hforeign ?_
  refine filter_eq_singleton List.filter_sublist hcount hforeign fun e' he' => ?_
  obtain ⟨-, hmatch'⟩ := isForeign_eq_true.mp (List.mem_filter.mp he').2
  rw [expectKey_eq_iff hmatch' hmatch, standsBeside_eq_true]

theorem Generated.marksExtension
    (h : Generated m o registry registry' files log wanted final actuals)
    (hfresh : ∀ k ∈ m.factoryKeys, k ∉ registry.keys) (he : e ∈ m.expected o)
    (hr : m.match? e = some r) (hreceiver : r.signature.receiver ≠ none) :
    MarksExtension m files r := by
  obtain ⟨rs, hrs, henrolled, hmarked⟩ := h.exists_granted
  have hgranted := h.mem_granted hfresh hrs henrolled hr
  obtain ⟨f, hf, hrf⟩ := exists_mem_of_forall₂ hmarked hgranted
  obtain ⟨main, rfl, hmain, hnames, hlines, hfunctions⟩ := h.exists_main
  refine ⟨main, List.mem_cons_self, hmain, final, hnames, hlines, f.function, ?_, ?_, ?_, ?_⟩
  · rw [hfunctions]
    exact List.mem_append_left _ (List.mem_map_of_mem hf)
  · exact hrf.marked e he (match?_eq_some hr).2
  · rwa [Ne, hrf.signature.receiver_eq_none]
  · exact hrf.signature

/-- A marked extension leaves nothing behind the declared function: other factories have
    other keys, and a function of its own would need a key that no factory has. -/
theorem Generated.lacksOwnActual
    (h : Generated m o registry registry' files log wanted final actuals)
    (hfresh : ∀ k ∈ m.factoryKeys, k ∉ registry.keys)
    (hr : m.match? e = some r) (hreceiver : r.signature.receiver ≠ none) :
    LacksOwnActual files e := by
  obtain ⟨rs, hrs, henrolled, hmarked⟩ := h.exists_granted
  have hgranted := h.mem_granted hfresh hrs henrolled hr
  obtain ⟨hmem, hkey⟩ := match?_eq_some hr
  have hhome : e.packageName = m.packageName := by
    rw [← (kind_of_request? (request?_of_mem hmem)).2]
    exact (congrArg FactoryKey.package hkey).symm
  have hkeys := keys_of_isWrittenFor henrolled
  have hnodup : (rs.map fun r => r.signature.key).Nodup := by
    rw [← hkeys]
    exact (enroll_adds wanted).1.nodup
  have htaken : expectKey e ∈ (registry.enroll wanted).enrolled.map Factory.key := by
    rw [hkeys, ← hkey]
    exact List.mem_map_of_mem hgranted
  obtain ⟨main, rfl, hmain, hnames, hlines, hfunctions⟩ := h.exists_main
  intro file hfile hpackage
  rcases List.mem_cons.mp hfile with rfl | hfile
  · refine ⟨final, hnames, hlines, fun g hg hnamed => ?_⟩
    rw [hfunctions] at hg
    rcases List.mem_append.mp hg with hg | hg
    · obtain ⟨f, hf, rfl⟩ := List.mem_map.mp hg
      obtain ⟨r', hr', hrf⟩ := exists_mem_of_forall₂ hmarked.flip hf
      refine ⟨r'.signature, fun hsame => hreceiver ?_, hrf.signature⟩
      rw [List.inj_on_of_nodup_map hnodup hgranted hr' (hkey.trans hsame.symm)]
      have hnone := ((Bool.and_eq_true _ _).mp ((Bool.and_eq_true _ _).mp hnamed).2).2
      exact hrf.signature.receiver_eq_none.mp (by simpa using hnone)
    · obtain ⟨e', he', hactual⟩ := exists_mem_of_forall₂ (h.filter_functions e.name).flip
        (List.mem_filter.mpr ⟨hg, hnamed⟩)
      obtain ⟨hown, -⟩ := List.mem_filter.mp he'
      refine ⟨e'.signature, fun hsame => ?_, hactual.signature⟩
      apply (isOwn_eq_true.mp (List.mem_filter.mp hown).2).1
      rw [key_signature] at hsame
      rw [hsame]
      exact htaken
  · obtain ⟨e', he', rfl⟩ := List.mem_map.mp hfile
    rw [foreignActuals_eq] at he'
    have hother := (isForeign_eq_true.mp (List.mem_filter.mp he').2).1
    rw [package_actualFile, hhome] at hpackage
    exact (hother hpackage).elim

/-- Generation with free keys settles every function that is declared `expect` once: where
    the first request with its key extends nothing, or there is none, it has an `actual` of
    its own or an error says why not; where that request extends something, the extension
    is marked instead. -/
theorem own_actual (hexperimental : o.experimental = true)
    (hfresh : ∀ k ∈ m.factoryKeys, k ∉ registry.keys)
    (hrun : (generate m o registry).run.run log = (.ok (files, registry'), log'))
    (he : e ∈ m.expectFunctions) (hexpect : e.isExpect = true)
    (hcount : (m.expectFunctions.map expectKey).count (expectKey e) = 1) :
    ((∀ r, m.match? e = some r → r.signature.receiver = none) →
        (∃ d ∈ log'.records, ReportsMismatch m e d) ∨ HasOwnActual m files e)
      ∧ ∀ r, m.match? e = some r → r.signature.receiver ≠ none →
          MarksExtension m files r ∧ LacksOwnActual files e := by
  obtain ⟨wanted, final, actuals, h⟩ := generate_generated hrun
  have hexpected : e ∈ m.expected o := mem_expected.mpr ⟨hexperimental, he, hexpect⟩
  have hsub : (m.expected o).Sublist m.expectFunctions := by
    rw [InterfaceModel.expected, if_pos hexperimental]
    exact List.filter_sublist
  have hcount : ((m.expected o).map expectKey).count (expectKey e) = 1 := by
    apply Nat.le_antisymm
    · exact hcount ▸ (hsub.map expectKey).count_le _
    · exact List.count_pos_iff.mpr (List.mem_map_of_mem hexpected)
  constructor
  · intro hplain
    cases hr : m.match? e with
    | some r =>
      right
      exact h.hasOwnActual_of_topLevel hfresh hexpected hr (hplain r hr)
    | none =>
      cases hmatch : mismatch? m e with
      | none =>
        right
        by_cases hhome : e.packageName = m.packageName
        · exact h.hasOwnActual_of_own hexpected hcount hr hmatch hhome
        · exact h.hasOwnActual_of_foreign hexpected hcount hmatch hhome
      | some problem =>
        left
        apply h.mismatches hexperimental e problem hmatch
        exact h.added.mismatches e hexpected (h.not_mem_enrolled hr) problem hmatch
  · intro r hr hreceiver
    exact ⟨h.marksExtension hfresh hexpected hr hreceiver, h.lacksOwnActual hfresh hr hreceiver⟩

end Main

/-! ### A declared function beside an extension -/

def FunctionDeclaration.declaring (name : String) : FunctionDeclaration :=
  { FunctionDeclaration.getting "" [⟨"client", .named TypeName.httpClient, false, []⟩]
      (.named "Users") with
    name := name
    modifiers := [.expect]
    annotations := [.named "KtorGenFunctionKmp"] }

def ClassDeclaration.extending : ClassDeclaration :=
  { ClassDeclaration.holding "Users" [.getting "users" [] (.named TypeName.string)] with
    annotations := [⟨"KtorGen", [("generateHttpClientExtension", .bool true)]⟩] }

def InterfaceModel.extending (name : String) : InterfaceModel :=
  ClassDeclaration.extending.resolvedModel [.declaring name] ⟨"Users.kt", []⟩

def Options.experimenting : Options :=
  { Options.default with experimental := true }

theorem InterfaceModel.exists_extending (name : String) :
    ∃ e ∈ (InterfaceModel.extending name).expectFunctions, e.isExpect = true
      ∧ ((InterfaceModel.extending name).expectFunctions.map expectKey).count (expectKey e) = 1 :=
  ⟨_, List.mem_cons_self, rfl, List.count_singleton_self⟩

/-- A declared function with a name of its own gets a function of its own. -/
theorem own_actual_of_extending :
    ∃ e ∈ (InterfaceModel.extending "newUsers").expectFunctions, ∃ files,
      (InterfaceModel.extending "newUsers").match? e = none
      ∧ HasOwnActual (InterfaceModel.extending "newUsers") files e := by
  obtain ⟨e, he, hexpect, hcount⟩ := InterfaceModel.exists_extending "newUsers"
  have hunmatched : ((InterfaceModel.extending "newUsers").expectFunctions.all fun e =>
      ((InterfaceModel.extending "newUsers").match? e).isNone) = true := by
    decide +kernel
  have hclean : ((generate (InterfaceModel.extending "newUsers") .experimenting .empty).run.run
      (.opened "")).2.records.all (fun d => d.severity != .error) = true := by
    decide +kernel
  have hgenerated : ((generate (InterfaceModel.extending "newUsers") .experimenting .empty).run.run
      (.opened "")).1.toOption.any (fun _ => True) = true := by
    decide +kernel
  have hnone := Option.isNone_iff_eq_none.mp (List.all_eq_true.mp hunmatched e he)
  cases hrun : (generate (InterfaceModel.extending "newUsers") .experimenting .empty).run.run
      (.opened "") with
  | mk result log' =>
    rw [hrun] at hclean hgenerated
    obtain ⟨⟨files, registry'⟩, rfl, -⟩ := ok_of_any hgenerated
    obtain ⟨hplain, -⟩ :=
      own_actual rfl (fun _ _ => List.not_mem_nil) hrun he hexpect hcount
    rcases hplain (by rw [hnone]; exact nofun) with ⟨d, hd, hreports⟩ | hown
    · have herror := List.all_eq_true.mp hclean d hd
      rw [hreports.isError] at herror
      cases herror
    · exact ⟨e, he, files, hnone, hown⟩

/-- An extension of the client is marked in place of a function that takes the client. -/
theorem extension_may_be_marked : ¬ ∀ (c : ClassDeclaration) (fs : List FunctionDeclaration)
    (m : InterfaceModel) (o : Options) (registry registry' : FactoryRegistry)
    (files : List SourceFile) (log log' vlog vlog' glog glog' : Log) (e : ExpectFunction),
    (c.extract fs).run.run log = (.ok (.ready m), log') →
    (validate Check.all m o).run.run vlog = (.ok (some m), vlog') →
    o.experimental = true → (∀ k ∈ m.factoryKeys, k ∉ registry.keys) →
    (generate m o registry).run.run glog = (.ok (files, registry'), glog') →
    e ∈ m.expectFunctions → e.isExpect = true →
    (m.expectFunctions.map expectKey).count (expectKey e) = 1 →
      (∃ d ∈ glog'.records, d.severity = .error ∧ d.symbol = some (expectSymbol e))
        ∨ actualsOf files e ≠ [] := by
  intro hall
  have hready : ClassDeclaration.extending.isReady [.declaring "createUsers"] = true := by
    decide +kernel
  have haccepted : Accepted Check.all (InterfaceModel.extending "createUsers") .experimenting :=
    errorsOf_eq_zero.mp (by decide +kernel)
  obtain ⟨e, he, hexpect, hcount⟩ := InterfaceModel.exists_extending "createUsers"
  have hclean : ((generate (InterfaceModel.extending "createUsers") .experimenting .empty).run.run
      (.opened "")).2.records.all (fun d => d.severity != .error) = true := by
    decide +kernel
  have hgenerated : ((generate (InterfaceModel.extending "createUsers") .experimenting
      .empty).run.run (.opened "")).1.toOption.any (fun generated =>
        ((InterfaceModel.extending "createUsers").expectFunctions.all fun e =>
          (actualsOf generated.1 e).isEmpty) = true) = true := by
    decide +kernel
  obtain ⟨log', hextract⟩ := ClassDeclaration.extract_of_isReady rfl hready (.opened "")
  obtain ⟨vlog', hvalidate⟩ := validate_of_accepted rfl haccepted (.opened "")
  cases hrun : (generate (InterfaceModel.extending "createUsers") .experimenting .empty).run.run
      (.opened "") with
  | mk result glog' =>
    rw [hrun] at hclean hgenerated
    obtain ⟨⟨files, registry'⟩, rfl, hempty⟩ := ok_of_any hgenerated
    rcases hall _ _ _ _ _ _ _ _ _ _ _ _ _ e hextract hvalidate rfl
        (fun _ _ => List.not_mem_nil) hrun he hexpect hcount with ⟨d, hd, herror, -⟩ | hsome
    · have hnone := List.all_eq_true.mp hclean d hd
      rw [herror] at hnone
      cases hnone
    · exact hsome (List.isEmpty_iff.mp (List.all_eq_true.mp hempty e he))

end ClientGen
