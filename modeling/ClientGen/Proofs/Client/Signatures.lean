/-
  ClientGen/Proofs/Client/Signatures.lean
  =======================================
  **Signatures of generated functions.**

  A signature tells the functions of a package apart: its name, what it extends and the
  types that it takes.  The key of a factory keeps less of it, since a receiver counts as
  one more parameter there, so different keys are a stronger condition than different
  signatures.  What an interface requests follows from its model, and every factory that is
  written for a request has its kind, its key and its signature in the finished file.
-/
import ClientGen.Proofs.Client.Bridging
import ClientGen.Proofs.Client.Generation
import ClientGen.Proofs.Related

namespace ClientGen

open ClientGen.Client ClientGen.Code

/-! ### Signatures -/

/-- A signature; types stand in it with all their names. -/
structure Signature where
  name : String
  package : String
  receiver : Option String
  parameterTypes : List String
deriving DecidableEq, Repr, Inhabited

def Signature.key (s : Signature) : FactoryKey :=
  ⟨s.name, s.package, s.receiver.toList ++ s.parameterTypes⟩

/-- The text is the written form of a receiver in a finished file: of a class, or of an
    object inside a class. -/
inductive RendersReceiver (final : ImportTable) : Option String → Option String → Prop
  | none : RendersReceiver final none none
  | itself {name text : String} (written : (writeName name).run final = (text, final)) :
      RendersReceiver final (some name) (some text)
  | inside {name text : String} (written : (writeName name).run final = (text, final))
      (inner : String) :
      RendersReceiver final (some (name ++ "." ++ inner)) (some (text ++ "." ++ inner))

/-- The function has the signature in a file with these names. -/
structure HasSignature (final : ImportTable) (g : Code.Function) (s : Signature) : Prop where
  name : g.name = s.name
  receiver : RendersReceiver final s.receiver g.receiver
  parameters : ∃ types : List TypeRef, types.map TypeRef.display = s.parameterTypes
    ∧ List.Forall₂ (fun t (q : Code.Param) => Rendered final t q.type) types g.params

theorem HasSignature.receiver_eq_none {final : ImportTable} {g : Code.Function} {s : Signature}
    (h : HasSignature final g s) : g.receiver = none ↔ s.receiver = none := by
  have hreceiver := h.receiver
  generalize s.receiver = written, g.receiver = text at hreceiver ⊢
  cases hreceiver <;> simp

/-! ### Requests -/

/-- A factory that an interface asks for. -/
structure FactoryRequest where
  kind : FactoryKind
  signature : Signature
deriving DecidableEq, Repr, Inhabited

/-- The types that the constructor takes. -/
def InterfaceModel.constructorTypes (m : InterfaceModel) : List String :=
  (factoryParams m).map fun p => p.2.display

def InterfaceModel.request? (m : InterfaceModel) : FactoryKind → Option FactoryRequest
  | .topLevel => m.options.topLevelFactory.map fun name =>
    ⟨.topLevel, name, m.packageName, none, m.constructorTypes⟩
  | .companion => m.options.companionFactory.bind fun name => m.companion.map fun companion =>
    ⟨.companion, name, m.packageName, some (m.qualifiedName ++ "." ++ companion.name),
      m.constructorTypes⟩
  | .httpClient => m.options.httpClientFactory.map fun name =>
    ⟨.httpClient, name, m.packageName, some TypeName.httpClient, m.constructorTypes.drop 1⟩

def InterfaceModel.requests (m : InterfaceModel) : List FactoryRequest :=
  (m.request? .topLevel).toList ++ (m.request? .companion).toList
    ++ (m.request? .httpClient).toList

/-- The factory is written for the request, in a file with these names. -/
structure IsWrittenFor (m : InterfaceModel) (final : ImportTable) (r : FactoryRequest)
    (f : Factory) : Prop where
  kind : f.kind = r.kind
  key : f.key = r.signature.key
  signature : HasSignature final f.function r.signature
  constructs : Constructs m f.function

section Requests

variable (m : InterfaceModel)

variable {m} in
theorem kind_of_request? {kind : FactoryKind} {r : FactoryRequest}
    (h : m.request? kind = some r) : r.kind = kind ∧ r.signature.package = m.packageName := by
  cases kind with
  | topLevel =>
    obtain ⟨name, -, rfl⟩ := Option.map_eq_some_iff.mp h
    exact ⟨rfl, rfl⟩
  | companion =>
    obtain ⟨name, -, h⟩ := Option.bind_eq_some_iff.mp h
    obtain ⟨companion, -, rfl⟩ := Option.map_eq_some_iff.mp h
    exact ⟨rfl, rfl⟩
  | httpClient =>
    obtain ⟨name, -, rfl⟩ := Option.map_eq_some_iff.mp h
    exact ⟨rfl, rfl⟩

variable {m} in
/-- An interface asks for at most one factory of a kind. -/
theorem request?_of_mem {r : FactoryRequest} (hr : r ∈ m.requests) : m.request? r.kind = some r := by
  unfold InterfaceModel.requests at hr
  simp only [List.mem_append, Option.mem_toList] at hr
  rcases hr with (hr | hr) | hr
  · rw [(kind_of_request? hr).1, hr]
  · rw [(kind_of_request? hr).1, hr]
  · rw [(kind_of_request? hr).1, hr]

theorem requests_keys : m.requests.map (fun r => r.signature.key) = m.factoryKeys := by
  unfold InterfaceModel.requests InterfaceModel.factoryKeys InterfaceModel.request?
  cases m.options.topLevelFactory <;> cases m.options.companionFactory <;> cases m.companion <;>
    cases m.options.httpClientFactory <;> rfl

theorem writeFactory_requested (interface : String) (kind : FactoryKind) (name : String)
    (receiver : Option Receiver) (params : List (String × TypeRef)) (arguments : List String) :
    Lasts (writeFactory m interface kind name receiver params arguments) fun final f =>
      RendersReceiver final (receiver.map Receiver.qualified) (receiver.map Receiver.written) →
        IsWrittenFor m final ⟨kind, name, m.packageName, receiver.map Receiver.qualified,
          params.map fun p => p.2.display⟩ f := by
  unfold writeFactory
  refine (Lasts.of_grows (writeFactoryAnnotations_grows m.options)).bind fun annotations => ?_
  refine (mapM_writeParam_lasts params).bind fun written => ?_
  apply Lasts.pure
  intro final hwritten _ hreceiver
  refine ⟨rfl, rfl, ⟨rfl, hreceiver, params.map Prod.snd, ?_, hwritten⟩, arguments, rfl⟩
  rw [List.map_map]
  rfl

theorem writeTopLevelFactory_requested (interface : String) :
    Lasts (writeTopLevelFactory m interface) fun final fs =>
      List.Forall₂ (IsWrittenFor m final) (m.request? .topLevel).toList fs := by
  unfold writeTopLevelFactory InterfaceModel.request?
  cases m.options.topLevelFactory with
  | none => exact Lasts.pure fun final => .nil
  | some name =>
    refine (writeFactory_requested m _ _ _ none _ _).bind fun f => ?_
    exact Lasts.pure fun final hf => .cons (hf .none) .nil

theorem writeCompanionFactory_requested (interface : String) :
    Lasts (writeCompanionFactory m interface) fun final fs =>
      (writeName m.qualifiedName).run final = (interface, final) →
        List.Forall₂ (IsWrittenFor m final) (m.request? .companion).toList fs := by
  unfold writeCompanionFactory InterfaceModel.request?
  cases m.options.companionFactory with
  | none => exact Lasts.pure fun final _ => .nil
  | some name =>
    cases m.companion with
    | none => exact Lasts.pure fun final _ => .nil
    | some companion =>
      refine (writeFactory_requested m _ _ _ (some _) _ _).bind fun f => ?_
      exact Lasts.pure fun final hf hinterface => .cons (hf (.inside hinterface _)) .nil

theorem writeClientFactory_requested (interface : String) :
    Lasts (writeClientFactory m interface) fun final fs =>
      List.Forall₂ (IsWrittenFor m final) (m.request? .httpClient).toList fs := by
  unfold writeClientFactory InterfaceModel.request?
  cases m.options.httpClientFactory with
  | none => exact Lasts.pure fun final => .nil
  | some name =>
    refine Lasts.bind (Stable.name TypeName.httpClient) fun client => ?_
    refine (writeFactory_requested m _ _ _ (some _) _ _).bind fun f => ?_
    refine Lasts.pure fun final hf hclient => .cons ?_ .nil
    have hwritten := hf (.itself hclient)
    rw [List.map_drop] at hwritten
    exact hwritten

theorem writeFactories_requested : Lasts (writeFactories m) fun final =>
    List.Forall₂ (IsWrittenFor m final) m.requests := by
  unfold writeFactories
  refine Lasts.bind (Stable.name m.qualifiedName) fun interface => ?_
  refine (writeTopLevelFactory_requested m interface).bind fun topLevel => ?_
  refine (writeCompanionFactory_requested m interface).bind fun companion => ?_
  refine (writeClientFactory_requested m interface).bind fun client => ?_
  apply Lasts.pure
  intro final hclient hcompanion htopLevel hinterface
  exact List.rel_append (List.rel_append htopLevel (hcompanion hinterface)) hclient

variable {m} in
theorem eq_of_isWrittenFor {final : ImportTable} {r r' : FactoryRequest} {f : Factory} (hr : r ∈ m.requests)
    (hr' : r' ∈ m.requests) (hf : IsWrittenFor m final r f) (hf' : IsWrittenFor m final r' f) :
    r = r' := by
  have hkind := request?_of_mem hr
  rw [← hf.kind, hf'.kind, request?_of_mem hr'] at hkind
  exact (Option.some.inj hkind).symm

end Requests

/-! ### Marked factories -/

/-- The second factory is the first one, marked when one of the functions has its key. -/
structure Marks (es : List ExpectFunction) (f f' : Factory) : Prop where
  kind : f'.kind = f.kind
  key : f'.key = f.key
  function : f'.function = { f.function with modifiers := f'.function.modifiers }
  isActual : actualWord ∈ f'.function.modifiers
    ↔ actualWord ∈ f.function.modifiers ∨ ∃ e ∈ es, f.key = expectKey e

section Marks

variable {m : InterfaceModel} {final : ImportTable} {es es' : List ExpectFunction}
  {e : ExpectFunction} {f f' f'' : Factory} {fs fs' fs'' : List Factory} {r : FactoryRequest}

theorem Marks.nil (f : Factory) : Marks [] f f :=
  ⟨rfl, rfl, rfl, by simp⟩

theorem Marks.of_ne (h : f.key ≠ expectKey e) : Marks [e] f f :=
  ⟨rfl, rfl, rfl, by simp [h]⟩

theorem Marks.asActual (h : f.key = expectKey e) : Marks [e] f f.asActual :=
  ⟨rfl, rfl, rfl, by simp [Factory.asActual, h]⟩

theorem Marks.trans (h : Marks es f f') (h' : Marks es' f' f'') : Marks (es ++ es') f f'' where
  kind := h'.kind.trans h.kind
  key := h'.key.trans h.key
  function := by rw [h'.function, h.function]
  isActual := by
    rw [h'.isActual, h.isActual, h.key, or_assoc]
    simp only [List.mem_append, or_and_right, exists_or]

theorem Marks.isWrittenFor (h : Marks es f f') (hf : IsWrittenFor m final r f) :
    IsWrittenFor m final r f' where
  kind := h.kind.trans hf.kind
  key := h.key.trans hf.key
  signature := by
    rw [h.function]
    exact ⟨hf.signature.name, hf.signature.receiver, hf.signature.parameters⟩
  constructs := by
    rw [h.function]
    exact hf.constructs

/-- The factory is written for the request, and marked when a declared function has its key. -/
structure IsMarkedFor (m : InterfaceModel) (final : ImportTable) (es : List ExpectFunction)
    (r : FactoryRequest) (f : Factory) : Prop extends IsWrittenFor m final r f where
  marked : ∀ e ∈ es, r.signature.key = expectKey e → actualWord ∈ f.function.modifiers

theorem Marks.forall₂_isMarkedFor {rs : List FactoryRequest}
    (h : List.Forall₂ (Marks es) fs fs') (hfs : List.Forall₂ (IsWrittenFor m final) rs fs) :
    List.Forall₂ (IsMarkedFor m final es) rs fs' := by
  induction h generalizing rs with
  | nil =>
    cases hfs
    exact .nil
  | cons hmarks _ ih =>
    cases hfs with
    | cons hf hrest =>
      refine .cons ⟨hmarks.isWrittenFor hf, fun e he hkey => ?_⟩ (ih hrest)
      exact hmarks.isActual.mpr (.inr ⟨e, he, hf.key.trans hkey⟩)

/-- Among different keys, the first factory of a key is the only one. -/
theorem markActual_marks (hkeys : (fs.map Factory.key).Nodup) :
    List.Forall₂ (Marks [e]) fs (markActual (expectKey e) fs) := by
  induction fs with
  | nil => exact .nil
  | cons f fs ih =>
    obtain ⟨hfresh, hrest⟩ := List.nodup_cons.mp hkeys
    rw [markActual]
    split
    · rename_i hkey
      refine .cons (.asActual hkey) (List.forall₂_same.mpr fun g hg => .of_ne ?_)
      rintro hsame
      exact hfresh (List.mem_map.mpr ⟨g, hg, hsame.trans hkey.symm⟩)
    · rename_i hkey
      exact .cons (.of_ne hkey) (ih hrest)

theorem Marks.forall₂_trans (h : List.Forall₂ (Marks es) fs fs')
    (h' : List.Forall₂ (Marks es') fs' fs'') : List.Forall₂ (Marks (es ++ es')) fs fs'' := by
  induction h generalizing fs'' with
  | nil =>
    cases h'
    exact .nil
  | cons hmarks _ ih =>
    cases h' with
    | cons hmarks' hrest => exact .cons (hmarks.trans hmarks') (ih hrest)

theorem map_key_of_marks (h : List.Forall₂ (Marks es) fs fs') :
    fs'.map Factory.key = fs.map Factory.key := by
  induction h with
  | nil => rfl
  | cons hmarks _ ih => rw [List.map_cons, List.map_cons, hmarks.key, ih]

end Marks

/-! ### Functions of their own -/

def ExpectFunction.signature (e : ExpectFunction) : Signature :=
  ⟨e.name, e.packageName, none, e.parameters.map fun p => p.2.display⟩

theorem key_signature (e : ExpectFunction) : e.signature.key = expectKey e :=
  rfl

/-- The declared function gets a function of its own in the main file, beside factories with
    these keys. -/
def InterfaceModel.isOwn (m : InterfaceModel) (keys : List FactoryKey) (e : ExpectFunction) :
    Bool :=
  !keys.contains (expectKey e) && (mismatch? m e).isNone && e.packageName == m.packageName

theorem isOwn_eq_true {m : InterfaceModel} {keys : List FactoryKey} {e : ExpectFunction} :
    m.isOwn keys e = true
      ↔ expectKey e ∉ keys ∧ mismatch? m e = none ∧ e.packageName = m.packageName := by
  simp [InterfaceModel.isOwn, and_assoc]

/-- The function is the `actual` of the declared one, with its signature. -/
structure IsActualOf (m : InterfaceModel) (final : ImportTable) (e : ExpectFunction)
    (g : Code.Function) : Prop where
  isActual : actualWord ∈ g.modifiers
  signature : HasSignature final g e.signature
  constructs : Constructs m g

/-- What adding declared functions does to factories with these keys. -/
structure Added (m : InterfaceModel) (es : List ExpectFunction) (final : ImportTable)
    (a a' : Actuals) : Prop where
  factories : List.Forall₂ (Marks es) a.factories a'.factories
  functions : ∃ gs, a'.functions = a.functions ++ gs
    ∧ List.Forall₂ (IsActualOf m final) (es.filter (m.isOwn (a.factories.map Factory.key))) gs
  findings : a.findings ⊆ a'.findings
  mismatches : ∀ e ∈ es, expectKey e ∉ a.factories.map Factory.key →
    ∀ problem, mismatch? m e = some problem → onExpect .error e problem ∈ a'.findings

section Added

variable {m : InterfaceModel} {final : ImportTable} {es es' : List ExpectFunction}
  {e : ExpectFunction} {a a' a'' : Actuals}

theorem Added.nil (a : Actuals) : Added m [] final a a where
  factories := List.forall₂_same.mpr fun f _ => .nil f
  functions := ⟨[], (List.append_nil _).symm, .nil⟩
  findings := List.Subset.refl _
  mismatches := nofun

theorem Added.trans (h : Added m es final a a') (h' : Added m es' final a' a'') :
    Added m (es ++ es') final a a'' := by
  have hkeys := map_key_of_marks h.factories
  obtain ⟨gs, hgs, hown⟩ := h.functions
  obtain ⟨gs', hgs', hown'⟩ := h'.functions
  rw [hkeys] at hown'
  constructor
  · exact Marks.forall₂_trans h.factories h'.factories
  · refine ⟨gs ++ gs', by rw [hgs', hgs, List.append_assoc], ?_⟩
    rw [List.filter_append]
    exact List.rel_append hown hown'
  · exact List.Subset.trans h.findings h'.findings
  · intro e he hfresh problem hproblem
    rcases List.mem_append.mp he with he | he
    · exact h'.findings (h.mismatches e he hfresh problem hproblem)
    · rw [← hkeys] at hfresh
      exact h'.mismatches e he hfresh problem hproblem

theorem writeActual_isActualOf (m : InterfaceModel) (e : ExpectFunction) :
    Lasts (writeActual m e) fun final g => IsActualOf m final e g := by
  unfold writeActual
  refine (Lasts.of_grows (writeFactoryAnnotations_grows m.options)).bind fun annotations => ?_
  refine (Lasts.of_grows (Grows.mapM _ writeMarkedUse_grows)).bind fun copied => ?_
  refine (mapM_writeParam_lasts e.parameters).bind fun params => ?_
  refine (Lasts.of_grows (Grows.type _)).bind fun returnType => ?_
  apply Lasts.pure
  intro final _ hparams _ _
  refine ⟨List.mem_cons_of_mem _ List.mem_cons_self, ⟨rfl, .none, ?_⟩, _, rfl⟩
  exact ⟨e.parameters.map Prod.snd, by rw [List.map_map]; rfl, hparams⟩

theorem find?_key_eq_none {fs : List Factory} {k : FactoryKey} :
    (fs.find? fun f => f.key == k) = none ↔ k ∉ fs.map Factory.key := by
  simp only [List.find?_eq_none, beq_iff_eq, List.mem_map, not_exists, not_and]

/-- A declared function whose key no factory has is a mismatch, or gets a function in the
    main file or a file of its own. -/
theorem added_unmarked (hfresh : expectKey e ∉ a.factories.map Factory.key)
    (hfactories : a'.factories = a.factories)
    (hfunctions : ∃ gs, a'.functions = a.functions ++ gs ∧ List.Forall₂ (IsActualOf m final)
      ([e].filter (m.isOwn (a.factories.map Factory.key))) gs)
    (hfindings : ∃ found, a'.findings = a.findings ++ found
      ∧ ∀ problem, mismatch? m e = some problem → onExpect .error e problem ∈ found) :
    Added m [e] final a a' := by
  obtain ⟨found, hfound, hmismatch⟩ := hfindings
  constructor
  · rw [hfactories]
    refine List.forall₂_same.mpr fun f hf => .of_ne ?_
    rintro hsame
    exact hfresh (hsame ▸ List.mem_map_of_mem hf)
  · exact hfunctions
  · rw [hfound]
    exact List.subset_append_left _ _
  · intro e' he' _ problem hproblem
    rw [List.mem_singleton.mp he'] at hproblem ⊢
    rw [hfound]
    exact List.mem_append_right _ (hmismatch problem hproblem)

theorem add_added (a : Actuals) (e : ExpectFunction) : Lasts (a.add m e) fun final a' =>
    (a.factories.map Factory.key).Nodup → Added m [e] final a a' := by
  have hnothing : a.functions = a.functions ++ [] := (List.append_nil _).symm
  -- Only what is own gets a function in the main file.
  have hnone : ∀ final, m.isOwn (a.factories.map Factory.key) e ≠ true →
      List.Forall₂ (IsActualOf m final) ([e].filter (m.isOwn (a.factories.map Factory.key))) [] := by
    intro final hown
    rw [List.filter_cons_of_neg hown]
    exact .nil
  unfold Actuals.add
  split
  · rename_i factory hfactory
    have htaken : expectKey e ∈ a.factories.map Factory.key := by
      by_contra hfresh
      rw [find?_key_eq_none.mpr hfresh] at hfactory
      cases hfactory
    apply Lasts.pure
    intro final hkeys
    constructor
    · exact markActual_marks hkeys
    · exact ⟨[], hnothing, hnone final fun hown => (isOwn_eq_true.mp hown).1 htaken⟩
    · exact List.subset_append_left _ _
    · intro e' he' hfresh
      rw [List.mem_singleton.mp he'] at hfresh
      exact (hfresh htaken).elim
  · rename_i hfree
    have hfresh := find?_key_eq_none.mp hfree
    split
    · rename_i problem hproblem
      have hown : m.isOwn (a.factories.map Factory.key) e ≠ true := by
        intro hown
        rw [(isOwn_eq_true.mp hown).2.1] at hproblem
        cases hproblem
      refine Lasts.pure fun final _ => ?_
      refine added_unmarked hfresh rfl ⟨[], hnothing, hnone final hown⟩ ⟨_, rfl, ?_⟩
      intro problem' hproblem'
      rw [hproblem] at hproblem'
      cases hproblem'
      exact List.mem_cons_self
    · rename_i hmatch
      have hfound : ∀ problem, mismatch? m e = some problem →
          onExpect .error e problem ∈ ([] : List Finding) := by
        intro problem hproblem
        rw [hmatch] at hproblem
        cases hproblem
      split
      · rename_i hhome
        have hown := isOwn_eq_true.mpr ⟨hfresh, hmatch, hhome⟩
        refine (writeActual_isActualOf m e).bind fun g => Lasts.pure fun final hg _ => ?_
        refine added_unmarked hfresh rfl ⟨[g], rfl, ?_⟩ ⟨[], (List.append_nil _).symm, hfound⟩
        rw [List.filter_cons_of_pos hown]
        exact .cons hg .nil
      · rename_i hforeign
        refine Lasts.pure fun final _ => ?_
        refine added_unmarked hfresh rfl ⟨[], hnothing, hnone final fun hown => ?_⟩
          ⟨[], (List.append_nil _).symm, hfound⟩
        exact hforeign (isOwn_eq_true.mp hown).2.2

/-- What is added for all declared functions. -/
theorem foldlM_add_added (es : List ExpectFunction) (a : Actuals) :
    Lasts (es.foldlM (Actuals.add m) a) fun final a' =>
      (a.factories.map Factory.key).Nodup → Added m es final a a' := by
  induction es generalizing a with
  | nil => exact Lasts.pure fun final _ => .nil a
  | cons e es ih =>
    rw [List.foldlM_cons]
    refine (add_added a e).bind fun between => (ih between).imp fun final a' hrest hfirst => ?_
    intro hkeys
    have hadded := hfirst hkeys
    rw [← map_key_of_marks hadded.factories] at hkeys
    exact hadded.trans (hrest hkeys)

end Added

/-- The declared functions that need an `actual`. -/
def InterfaceModel.expected (m : InterfaceModel) (o : Options) : List ExpectFunction :=
  if o.experimental then m.expectFunctions.filter fun e => e.isExpect else []

theorem mem_expected {m : InterfaceModel} {o : Options} {e : ExpectFunction} :
    e ∈ m.expected o ↔ o.experimental = true ∧ e ∈ m.expectFunctions ∧ e.isExpect = true := by
  unfold InterfaceModel.expected
  by_cases h : o.experimental = true <;> simp [h]

theorem foreignActuals_eq (m : InterfaceModel) (o : Options) :
    m.foreignActuals o = (m.expected o).filter m.isForeign := by
  unfold InterfaceModel.foreignActuals InterfaceModel.expected
  split <;> rfl

/-! ### Whole files -/

/-- The record warns that the interface does not get the factory that it asks for. -/
structure Diagnostic.ReportsRefusal (d : Diagnostic) (interface : String) (kind : FactoryKind)
    (key : FactoryKey) : Prop where
  isWarning : d.severity = .warning
  message : d.message = Text.trim (Problem.duplicateFactory kind.label key.display).message
  symbol : d.symbol = some interface

/-- What generation writes beside the class, with the names of the finished main file. -/
structure Generated (m : InterfaceModel) (o : Options) (registry registry' : FactoryRegistry)
    (files : List SourceFile) (log : Log) (wanted : List Factory) (final : ImportTable)
    (actuals : Actuals) : Prop where
  package : final.package = m.packageName
  requested : List.Forall₂ (IsWrittenFor m final) m.requests wanted
  registered : registry' = (registry.enroll wanted).registry
  refused : ∀ f ∈ (registry.enroll wanted).refused,
    ∃ d ∈ log.records, d.ReportsRefusal m.qualifiedName f.kind f.key
  added : Added m (m.expected o) final (.start (registry.enroll wanted).enrolled) actuals
  mismatches : o.experimental = true → ∀ e problem, mismatch? m e = some problem →
    onExpect .error e problem ∈ actuals.findings → ∃ d ∈ log.records, ReportsMismatch m e d
  files : ∃ c, files
    = mainFile m final c (actuals.factories.map Factory.function ++ actuals.functions)
      :: (m.foreignActuals o).map (actualFile m)

section Generation

variable {m : InterfaceModel} {o : Options} {registry registry' : FactoryRegistry}
  {names names' : ImportTable} {log log' : Log}

/-- The requests that are granted are those of the enrolled factories. -/
theorem Generated.exists_granted {files : List SourceFile} {wanted : List Factory}
    {final : ImportTable} {actuals : Actuals}
    (h : Generated m o registry registry' files log wanted final actuals) :
    ∃ rs : List FactoryRequest, rs.Sublist m.requests
      ∧ List.Forall₂ (IsWrittenFor m final) rs (registry.enroll wanted).enrolled
      ∧ List.Forall₂ (IsMarkedFor m final (m.expected o)) rs actuals.factories := by
  obtain ⟨rs, hrs, henrolled⟩ :=
    exists_sublist_of_forall₂ h.requested (FactoryRegistry.enrolled_sublist wanted)
  exact ⟨rs, hrs, henrolled, Marks.forall₂_isMarkedFor h.added.factories henrolled⟩

theorem exists_record_of_refused {enrollment : Enrollment}
    (hrun : (generateFactories m registry names).run.run log = (.ok (enrollment, names'), log'))
    {f : Factory} (hf : f ∈ enrollment.refused) :
    ∃ d ∈ log'.records, d.ReportsRefusal m.qualifiedName f.kind f.key := by
  rw [generateFactories_eq (companion_of_generateFactories hrun)] at hrun
  obtain ⟨_, recorded, hrecord, hreturn⟩ := StepM.ok_of_bind hrun
  cases hreturn
  obtain ⟨d, hd, hseverity, hmessage, hsymbol⟩ :=
    exists_record_recordAll (List.mem_map_of_mem hf) hrecord
  rw [Finding.message_of_unsigned rfl] at hmessage
  exact ⟨d, hd, hseverity, hmessage, hsymbol⟩

/-- What the stages behind the class say together. -/
theorem generated_of_stages {cls : Code.Class} {names₁ names₂ final : ImportTable}
    {log₁ log₂ log₃ : Log} {enrollment : Enrollment} {actuals : Actuals}
    (hfactories : (generateFactories m registry names₁).run.run log₁
      = (.ok (enrollment, names₂), log₂))
    (hactuals : (generateActuals m o enrollment.enrolled names₂).run.run log₂
      = (.ok (actuals, final), log₃))
    (hlater : log₃.records ⊆ log'.records) (hpackage : final.package = m.packageName) :
    Generated m o registry enrollment.registry
      (mainFile m final cls (actuals.factories.map Factory.function ++ actuals.functions)
        :: actuals.files)
      log' ((writeFactories m).run names₁).1 final actuals := by
  have hextends := generateActuals_extends hactuals
  have hkept := (generateActuals_returns m o names₂ enrollment.enrolled).steady.records hactuals
  have hfiles := files_generateActuals m (home_generateFactories m hfactories) hactuals
  obtain ⟨henrollment, hnames⟩ := Prod.mk.inj (generateFactories_ok hfactories)
  constructor
  · exact hpackage
  · exact (writeFactories_requested m).holds names₁ final (hnames ▸ hextends)
  · rw [henrollment]
  · intro f hf
    rw [henrollment] at hf
    obtain ⟨d, hd, hreports⟩ := exists_record_of_refused hfactories hf
    exact ⟨d, hlater (hkept hd), hreports⟩
  · have hkeys : (enrollment.enrolled.map Factory.key).Nodup := by
      rw [← henrollment]
      exact (FactoryRegistry.enroll_adds _).1.nodup
    have hok := generateActuals_ok hactuals
    have hadded := (foldlM_add_added (m := m) (m.expectFunctions.filter fun e => e.isExpect)
      (.start enrollment.enrolled)).holds names₂ final
    rw [henrollment, InterfaceModel.expected]
    by_cases hexperimental : o.experimental = true
    · rw [if_pos hexperimental, writeActuals] at hok
      rw [if_pos hexperimental]
      rw [hok] at hadded
      exact hadded (.refl final) hkeys
    · rw [if_neg hexperimental] at hok ⊢
      obtain ⟨rfl, -⟩ := Prod.mk.inj hok
      exact .nil _
  · intro hexperimental e problem hproblem hfinding
    obtain ⟨d, hd, hseverity, hmessage, hsymbol⟩ :=
      exists_record_generateActuals hexperimental hactuals hfinding
    rw [Finding.message_of_unsigned rfl] at hmessage
    exact ⟨d, hlater hd, hseverity, hsymbol, problem, hproblem, hmessage⟩
  · exact ⟨cls, by rw [hfiles]⟩

/-- The stages of generation as one statement about its files and its log. -/
theorem generate_generated {files : List SourceFile}
    (hrun : (generate m o registry).run.run log = (.ok (files, registry'), log')) :
    ∃ wanted final actuals, Generated m o registry registry' files log' wanted final actuals := by
  obtain ⟨cls, names₁, log₁, enrollment, names₂, log₂, actuals, final, log₃, -, hfactories,
    hactuals, hlater, hpackage, rfl, rfl⟩ := generate_ok hrun
  exact ⟨_, final, actuals, generated_of_stages hfactories hactuals hlater hpackage⟩

end Generation

end ClientGen
