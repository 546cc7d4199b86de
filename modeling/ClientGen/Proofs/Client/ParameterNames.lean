/-
  ClientGen/Proofs/Client/ParameterNames.lean
  ===========================================
  **The names of the constructor parameters.**

  A parameter is named by the property that it implements, by the type that it is delegated
  to, or, when no property holds the client, by a fixed word.  Extraction and the checks
  compare none of these names with each other: two supertypes of different packages may share
  their simple name (`parameters_may_share_names`).  The names are distinct exactly when those
  that no property gives are apart (`NamesApart`), and then every delegation denotes one
  parameter, which has the type that is delegated.
-/
import ClientGen.Proofs.Client.Compliance
import ClientGen.Proofs.Client.Constructor
import ClientGen.Proofs.Related

namespace ClientGen

open ClientGen.Client

/-! ### Names that no property gives -/

theorem SetsApart.any_holdsClient {ps others : List PropertyDeclaration}
    {client : Option PropertyDeclaration} (h : SetsApart ps client others) :
    ps.any PropertyDeclaration.holdsClient = client.isSome := by
  cases h with
  | absent hnone => exact List.any_eq_false.mpr fun p hp => by simp [hnone p hp]
  | @found before after p hbefore hp => exact List.any_eq_true.mpr ⟨p, by simp, hp⟩

theorem names_constructorParams (m : InterfaceModel) :
    (constructorParams m).map ConstructorParam.name
      = m.clientName :: (m.properties.map PropertyModel.name
          ++ m.supertypes.map delegateName) := by
  simp only [constructorParams, ownParams, List.map_cons, List.map_append, List.map_map]
  rfl

namespace ClassDeclaration

variable {c : ClassDeclaration} {factories : List FunctionDeclaration} {m : InterfaceModel}
  {log log' : Log}

/-- The supertypes that the generated class delegates to. -/
def delegates (c : ClassDeclaration) : List TypeRef :=
  c.supertypes.filter fun t => !t.isAny

/-- The names that the constructor gives by itself: that of a client which no property
    holds, and those of the delegates. -/
def givenNames (c : ClassDeclaration) : List String :=
  (if c.properties.any PropertyDeclaration.holdsClient then []
    else [InterfaceModel.defaultClientName])
    ++ c.delegates.map delegateName

/-- No such name is given twice, and none is that of a property. -/
structure NamesApart (c : ClassDeclaration) : Prop where
  nodup : c.givenNames.Nodup
  fresh : ∀ p ∈ c.properties, p.name ∉ c.givenNames

instance (c : ClassDeclaration) : Decidable c.NamesApart :=
  decidable_of_iff (c.givenNames.Nodup ∧ ∀ p ∈ c.properties, p.name ∉ c.givenNames)
    ⟨fun h => ⟨h.1, h.2⟩, fun h => ⟨h.nodup, h.fresh⟩⟩

theorem supertypes_of_extract
    (hextract : (c.extract factories).run.run log = (.ok (.ready m), log')) :
    m.supertypes = c.delegates := by
  obtain ⟨file, hfile, hclean, rfl⟩ := eq_resolvedModel hextract
  rfl

/-- The name of the client stands in front of the others or among those given. -/
theorem perm_names_constructorParams
    (hextract : (c.extract factories).run.run log = (.ok (.ready m), log')) :
    ((constructorParams m).map ConstructorParam.name).Perm
      (c.properties.map PropertyDeclaration.name ++ c.givenNames) := by
  obtain ⟨file, hfile, hclean, rfl⟩ := eq_resolvedModel hextract
  obtain ⟨client, others, hapart, hsplit⟩ := exists_setsApart c.properties
  have hparams : (constructorParams (c.resolvedModel factories file)).map ConstructorParam.name
      = (client.map PropertyDeclaration.name).getD InterfaceModel.defaultClientName
        :: (others.map PropertyDeclaration.name ++ c.delegates.map delegateName) := by
    rw [names_constructorParams]
    simp only [InterfaceModel.clientName, resolvedModel, modelWith, hsplit, List.map_map]
    rfl
  have hnames := hapart.perm.map PropertyDeclaration.name
  rw [hparams, givenNames, hapart.any_holdsClient]
  cases client with
  | none => exact List.perm_middle.symm.trans (hnames.append_right _)
  | some p => exact hnames.append_right _

/-- Among distinct properties, the parameters have distinct names exactly when the names that
    no property gives are apart. -/
theorem nodup_names_constructorParams
    (hproperties : (c.properties.map PropertyDeclaration.name).Nodup)
    (hextract : (c.extract factories).run.run log = (.ok (.ready m), log')) :
    ((constructorParams m).map ConstructorParam.name).Nodup ↔ c.NamesApart := by
  rw [(perm_names_constructorParams hextract).nodup_iff, List.nodup_append]
  constructor
  · rintro ⟨-, hgiven, hfresh⟩
    refine ⟨hgiven, fun p hp hmem => ?_⟩
    exact hfresh _ (List.mem_map_of_mem hp) _ hmem rfl
  · intro h
    refine ⟨hproperties, h.nodup, fun name hname given hgiven hsame => ?_⟩
    obtain ⟨p, hp, rfl⟩ := List.mem_map.mp hname
    exact h.fresh p hp (hsame ▸ hgiven)

end ClassDeclaration

/-! ### The written constructor -/

/-- The parameter is written as it is planned, in a file with these names. -/
structure Client.ConstructorParam.WrittenAs (final : ImportTable) (p : ConstructorParam)
    (q : Code.Param) : Prop where
  name : q.name = p.name
  property : q.property = p.property.map PropertyWord.text
  isVararg : q.isVararg = false
  type : Rendered final p.type q.type

/-- The text delegates the type to the parameter that is named after it. -/
def DelegatesTo (final : ImportTable) (t : TypeRef) (text : String) : Prop :=
  ∃ type, Rendered final t type ∧ text = type ++ " by " ++ delegateName t

/-- The head of a class is that of the model, in a file with these names. -/
structure IsHeadOf (final : ImportTable) (m : InterfaceModel) (head : ClassHead) : Prop where
  params : List.Forall₂ (ConstructorParam.WrittenAs final) (constructorParams m)
    head.constructorParams
  supertypes : ∃ interface delegations, head.supertypes = interface :: delegations
    ∧ List.Forall₂ (DelegatesTo final) m.supertypes delegations

theorem writeConstructorParam_lasts (p : ConstructorParam) :
    Lasts (writeConstructorParam p) fun final => p.WrittenAs final :=
  (writeType_rendered p.type).bind fun _ => Lasts.pure fun _ htype => ⟨rfl, rfl, rfl, htype⟩

theorem writeDelegation_lasts (t : TypeRef) :
    Lasts (writeDelegation t) fun final => DelegatesTo final t :=
  (writeType_rendered t).bind fun type => Lasts.pure fun _ htype => ⟨type, htype, rfl⟩

theorem writeClassHead_lasts (m : InterfaceModel) :
    Lasts (writeClassHead m) fun final => IsHeadOf final m := by
  unfold writeClassHead
  refine (Lasts.of_grows (writeClassAnnotations_grows m.options)).bind fun annotations => ?_
  refine (Lasts.mapM fun p _ => writeConstructorParam_lasts p).bind fun params => ?_
  refine (Lasts.of_grows (Grows.name m.qualifiedName)).bind fun interface => ?_
  refine (Lasts.mapM fun t _ => writeDelegation_lasts t).bind fun delegations => ?_
  exact Lasts.pure fun final hdelegations _ hparams _ =>
    ⟨hparams, interface, delegations, rfl, hdelegations⟩

/-- The class of the first file has the head of the model. -/
theorem generate_head {m : InterfaceModel} {o : Options} {registry registry' : FactoryRegistry}
    {files : List SourceFile} {log log' : Log}
    (hrun : (generate m o registry).run.run log = (.ok (files, registry'), log')) :
    ∃ (main : SourceFile) (others : List SourceFile) (cls : Code.Class) (head : ClassHead)
        (final : ImportTable),
      files = main :: others ∧ main.file.classes = [cls]
      ∧ final.package = main.file.package ∧ final.lines = main.file.imports
      ∧ cls.constructorParams = head.constructorParams ∧ cls.supertypes = head.supertypes
      ∧ IsHeadOf final m head := by
  obtain ⟨cls, names₁, log₁, enrollment, names₂, log₂, actuals, final, log₃, hclass, hfactories,
    hactuals, -, hpackage, rfl, -⟩ := generate_ok hrun
  obtain ⟨gs, hoverrides, hcls⟩ := generateClass_ok hclass
  -- What is written behind the head leaves its names as they are.
  have hlater := (generateOverrides_extends hoverrides).trans
    ((generateFactories_extends hfactories).trans (generateActuals_extends hactuals))
  have hhead := (writeClassHead_lasts m).holds _ final hlater
  generalize ((writeClassHead m).run _).1 = head at hcls hhead
  subst hcls
  exact ⟨_, actuals.files, _, head, final, rfl, rfl, hpackage, rfl, rfl, rfl, hhead⟩

/-! ### What a delegation denotes -/

/-- The text delegates the type to the only parameter of its name, which has that type. -/
def DelegatesToOne (final : ImportTable) (params : List Code.Param) (t : TypeRef)
    (text : String) : Prop :=
  ∃ p ∈ params, p.name = delegateName t ∧ Rendered final t p.type
    ∧ text = p.type ++ " by " ++ p.name ∧ ∀ q ∈ params, q.name = p.name → q = p

section Head

variable {final : ImportTable} {m : InterfaceModel} {head : ClassHead}

theorem IsHeadOf.map_name (h : IsHeadOf final m head) :
    (constructorParams m).map ConstructorParam.name
      = head.constructorParams.map Code.Param.name := by
  rw [← List.forall₂_eq_eq_eq, List.forall₂_map_left_iff, List.forall₂_map_right_iff]
  exact h.params.imp fun p q hq => hq.name.symm

/-- Among distinct names every delegation denotes the parameter that was made for it. -/
theorem IsHeadOf.delegatesToOne (h : IsHeadOf final m head)
    (hnames : ((constructorParams m).map ConstructorParam.name).Nodup) {t : TypeRef}
    {text : String} (ht : t ∈ m.supertypes) (htext : DelegatesTo final t text) :
    DelegatesToOne final head.constructorParams t text := by
  have hparam : delegateParam t ∈ constructorParams m :=
    List.mem_cons_of_mem _ (List.mem_append_right _ (List.mem_map_of_mem ht))
  obtain ⟨p, hp, hwritten⟩ := exists_mem_of_forall₂ h.params hparam
  obtain ⟨type, htype, rfl⟩ := htext
  have hsame : (type, final) = (p.type, final) := htype.symm.trans hwritten.type
  cases hsame
  refine ⟨p, hp, hwritten.name, htype, by rw [hwritten.name]; rfl, fun q hq hqp => ?_⟩
  rw [h.map_name] at hnames
  exact List.inj_on_of_nodup_map hnames hq hp hqp

end Head

/-- Among distinct properties, the constructor takes parameters with distinct names exactly
    when the names that no property gives are apart.  Then the generated class takes them as
    they are, and each of its delegations denotes one of them. -/
theorem delegations_denote_one {c : ClassDeclaration} {factories : List FunctionDeclaration}
    {m : InterfaceModel} {log log' : Log}
    (hproperties : (c.properties.map PropertyDeclaration.name).Nodup)
    (hextract : (c.extract factories).run.run log = (.ok (.ready m), log')) :
    (((constructorParams m).map ConstructorParam.name).Nodup ↔ c.NamesApart)
      ∧ (c.NamesApart → ∀ (o : Options) (registry registry' : FactoryRegistry)
          (files : List SourceFile) (glog glog' : Log),
        (generate m o registry).run.run glog = (.ok (files, registry'), glog') →
          ∃ (main : SourceFile) (others : List SourceFile) (cls : Code.Class)
              (final : ImportTable) (interface : String) (delegations : List String),
            files = main :: others ∧ main.file.classes = [cls]
            ∧ final.package = main.file.package ∧ final.lines = main.file.imports
            ∧ List.Forall₂ (ConstructorParam.WrittenAs final) (constructorParams m)
                cls.constructorParams
            ∧ (cls.constructorParams.map Code.Param.name).Nodup
            ∧ cls.supertypes = interface :: delegations
            ∧ List.Forall₂ (DelegatesToOne final cls.constructorParams) c.delegates
                delegations) := by
  have hnodup := ClassDeclaration.nodup_names_constructorParams hproperties hextract
  refine ⟨hnodup, fun hapart o registry registry' files glog glog' hgenerate => ?_⟩
  have hnames := hnodup.mpr hapart
  obtain ⟨main, others, cls, head, final, hfiles, hclasses, hpackage, hlines, hparams,
    hsupertypes, hhead⟩ := generate_head hgenerate
  obtain ⟨interface, delegations, hdelegations, hall⟩ := hhead.supertypes
  refine ⟨main, others, cls, final, interface, delegations, hfiles, hclasses, hpackage, hlines,
    ?_, ?_, hsupertypes.trans hdelegations, ?_⟩
  · rw [hparams]
    exact hhead.params
  · rw [hparams, ← hhead.map_name]
    exact hnames
  · rw [hparams, ← ClassDeclaration.supertypes_of_extract hextract]
    have hmem := (List.forall₂_and_left _ _).mpr ⟨fun t ht => ht, hall⟩
    exact hmem.imp fun t text ht => hhead.delegatesToOne hnames ht.1 ht.2

def ClassDeclaration.delegating : ClassDeclaration :=
  { ClassDeclaration.holding "Users" [] with
    supertypes := [.named "kotlin.Any", .named "a.Closing", .named "b.Opening"]
    properties := [⟨"token", .named TypeName.string, true, []⟩] }

/-- Both delegations denote the parameter of their type. -/
theorem delegations_denote_one_of_delegating :
    ∃ m log' files registry' glog' main others cls final interface delegations,
      (ClassDeclaration.delegating.extract []).run.run (.opened "") = (.ok (.ready m), log')
      ∧ (generate m .default .empty).run.run (.opened "") = (.ok (files, registry'), glog')
      ∧ ((constructorParams m).map ConstructorParam.name).Nodup
      ∧ files = main :: others ∧ main.file.classes = [cls]
      ∧ cls.supertypes = interface :: delegations
      ∧ List.Forall₂ (DelegatesToOne final cls.constructorParams)
          [.named "a.Closing", .named "b.Opening"] delegations := by
  have hready : ClassDeclaration.delegating.isReady [] = true := by
    decide +kernel
  have hgenerated : ((generate (ClassDeclaration.delegating.resolvedModel [] ⟨"Users.kt", []⟩)
      .default .empty).run.run (.opened "")).1.toOption.isSome = true := by
    decide +kernel
  obtain ⟨log', hextract⟩ := ClassDeclaration.extract_of_isReady rfl hready (.opened "")
  obtain ⟨hnodup, hdenote⟩ := delegations_denote_one (by decide) hextract
  have hapart : ClassDeclaration.delegating.NamesApart := by
    decide +kernel
  cases hrun : (generate (ClassDeclaration.delegating.resolvedModel [] ⟨"Users.kt", []⟩)
      .default .empty).run.run (.opened "") with
  | mk result glog' =>
    rw [hrun] at hgenerated
    cases result with
    | error f => cases hgenerated
    | ok generated =>
      obtain ⟨files, registry'⟩ := generated
      obtain ⟨main, others, cls, final, interface, delegations, hfiles, hclasses, -, -, -, -,
        hsupertypes, hall⟩ := hdenote hapart _ _ _ _ _ _ hrun
      exact ⟨_, log', files, registry', glog', main, others, cls, final, interface, delegations,
        hextract, hrun, hnodup.mpr hapart, hfiles, hclasses, hsupertypes, hall⟩

/-- Two types of different packages may give their parameters one name, and no check sees it. -/
theorem parameters_may_share_names :
    ¬ ∀ (c : ClassDeclaration) (factories : List FunctionDeclaration) (m m' : InterfaceModel)
        (log log' vlog vlog' : Log),
      (c.extract factories).run.run log = (.ok (.ready m), log') →
      (validate Check.all m .default).run.run vlog = (.ok (some m'), vlog') →
      (c.properties.map PropertyDeclaration.name).Nodup → c.supertypes.Nodup →
        ((constructorParams m').map ConstructorParam.name).Nodup := by
  intro hall
  let c : ClassDeclaration :=
    { ClassDeclaration.delegating with supertypes := [.named "a.Closing", .named "b.Closing"] }
  have hready : c.isReady [] = true := by
    decide +kernel
  have haccepted : Accepted Check.all (c.resolvedModel [] ⟨"Users.kt", []⟩) .default :=
    errorsOf_eq_zero.mp (by decide +kernel)
  obtain ⟨log', hextract⟩ := ClassDeclaration.extract_of_isReady rfl hready (.opened "")
  obtain ⟨vlog', hvalidate⟩ := validate_of_accepted rfl haccepted (.opened "")
  have hnodup := hall c [] _ _ _ _ _ _ hextract hvalidate (by decide)
    (by decide +kernel)
  revert hnodup
  decide +kernel

end ClientGen
