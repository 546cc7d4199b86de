/-
  ClientGen/Proofs/Client/Constructor.lean
  ========================================
  **What a generated class takes from its interface.**

  Extraction sets the first property that holds a client apart from the others, and the
  constructor puts it in front of them.  Every other property keeps its place, its type and
  its mutability (`constructor_fidelity`).  Of the client the model keeps the name alone, so
  a property that may be set becomes one that may not (`client_may_be_frozen`).
-/
import ClientGen.Client.Constructor
import ClientGen.Proofs.Model.Extraction

namespace ClientGen

open ClientGen.Client

/-! ### Declared properties -/

/-- The parameter that implements a property as it is declared. -/
def PropertyDeclaration.param (p : PropertyDeclaration) : ConstructorParam :=
  ⟨p.name, p.type, some (if p.mutable then .overrideVar else .overrideVal)⟩

theorem propertyParam_model (p : PropertyDeclaration) : propertyParam p.model = p.param :=
  rfl

/-- The first property that holds a client, when there is one, and all others in order. -/
inductive SetsApart :
    List PropertyDeclaration → Option PropertyDeclaration → List PropertyDeclaration → Prop
  | absent {ps : List PropertyDeclaration} (hnone : ∀ p ∈ ps, p.holdsClient = false) :
      SetsApart ps none ps
  | found {before after : List PropertyDeclaration} {p : PropertyDeclaration}
      (hbefore : ∀ q ∈ before, q.holdsClient = false) (hp : p.holdsClient = true) :
      SetsApart (before ++ p :: after) (some p) (before ++ after)

theorem SetsApart.perm {ps others : List PropertyDeclaration} {client : Option PropertyDeclaration}
    (h : SetsApart ps client others) : (client.toList ++ others).Perm ps := by
  cases h with
  | absent hnone => exact .refl _
  | found hbefore hp =>
    rw [Option.toList_some, List.singleton_append]
    exact List.perm_middle.symm

/-- One more property in front changes nothing unless it holds a client. -/
theorem SetsApart.cons {ps others : List PropertyDeclaration} {client : Option PropertyDeclaration}
    (h : SetsApart ps client others) {p : PropertyDeclaration} (hp : p.holdsClient = false) :
    SetsApart (p :: ps) client (p :: others) := by
  cases h with
  | absent hnone => exact .absent (List.forall_mem_cons.mpr ⟨hp, hnone⟩)
  | @found before after q hbefore hq =>
    exact @SetsApart.found (p :: before) after q (List.forall_mem_cons.mpr ⟨hp, hbefore⟩) hq

/-- Extraction keeps the name of the client and the models of the others. -/
theorem exists_setsApart (ps : List PropertyDeclaration) :
    ∃ client others, SetsApart ps client others
      ∧ splitClient ps
        = (client.map PropertyDeclaration.name, others.map PropertyDeclaration.model) := by
  induction ps with
  | nil => exact ⟨none, [], .absent fun p hp => (nomatch hp), rfl⟩
  | cons p ps ih =>
    by_cases hp : p.holdsClient = true
    · refine ⟨some p, ps, @SetsApart.found [] ps p (fun q hq => nomatch hq) hp, ?_⟩
      simp [splitClient, hp]
    · obtain ⟨client, others, hapart, hsplit⟩ := ih
      rw [Bool.not_eq_true] at hp
      refine ⟨client, p :: others, hapart.cons hp, ?_⟩
      simp [splitClient, hp, hsplit]

/-! ### The constructor -/

/-- The parameter of the client: that of a property, or one that only the class sees. -/
def holderParam : Option PropertyDeclaration → ConstructorParam
  | some p => ⟨p.name, .named TypeName.httpClient, some .overrideVal⟩
  | none => ⟨"_httpClient", .named TypeName.httpClient, some .privateVal⟩

/-- The property of the client is implemented as it is declared only when it cannot be set. -/
theorem holderParam_eq_param {p : PropertyDeclaration} :
    holderParam (some p) = p.param
      ↔ p.mutable = false ∧ p.type = .named TypeName.httpClient := by
  constructor
  · intro h
    simp only [holderParam, PropertyDeclaration.param, ConstructorParam.mk.injEq,
      Option.some.injEq, true_and] at h
    obtain ⟨htype, hword⟩ := h
    refine ⟨?_, htype.symm⟩
    by_contra hmutable
    rw [Bool.not_eq_false] at hmutable
    simp [hmutable] at hword
  · rintro ⟨hmutable, htype⟩
    simp [holderParam, PropertyDeclaration.param, hmutable, htype]

/-- The constructor takes the client, the other properties as they are declared, and what
    the supertypes are delegated to.  A client that may be set is the one property that is
    not implemented as it is declared. -/
theorem constructor_fidelity {c : ClassDeclaration} {factories : List FunctionDeclaration}
    {m : InterfaceModel} {log log' : Log}
    (hextract : (c.extract factories).run.run log = (.ok (.ready m), log')) :
    ∃ client others, SetsApart c.properties client others
      ∧ (client.toList ++ others).Perm c.properties
      ∧ constructorParams m = holderParam client :: (others.map PropertyDeclaration.param
          ++ (c.supertypes.filter fun t => !t.isAny).map fun t =>
            ⟨Text.lowerCamel (Text.simpleName t.qualifiedName), t, none⟩)
      ∧ ∀ p ∈ client, (holderParam client = p.param
          ↔ p.mutable = false ∧ p.type = .named TypeName.httpClient) := by
  obtain ⟨file, hfile, hclean, rfl⟩ := ClassDeclaration.eq_resolvedModel hextract
  obtain ⟨client, others, hapart, hsplit⟩ := exists_setsApart c.properties
  refine ⟨client, others, hapart, hapart.perm, ?_, ?_⟩
  · have hparams : propertyParam ∘ PropertyDeclaration.model = PropertyDeclaration.param :=
      funext propertyParam_model
    unfold constructorParams clientParam ownParams InterfaceModel.clientName
      ClassDeclaration.resolvedModel ClassDeclaration.modelWith
    simp only [hsplit, List.map_map, hparams]
    cases client with
    | none => rfl
    | some p => rfl
  · intro p hp
    rw [Option.mem_def] at hp
    rw [hp]
    exact holderParam_eq_param

/-- An interface with a token that may be set, two clients and a supertype. -/
def ClassDeclaration.withClients : ClassDeclaration :=
  { ClassDeclaration.holding "Users" [] with
    supertypes := [.named "kotlin.Any", .named "demo.Closing"]
    properties := [⟨"token", .named TypeName.string, true, []⟩,
      ⟨"client", .named TypeName.httpClient, false, []⟩,
      ⟨"spare", .named TypeName.httpClient, true, []⟩] }

/-- The first client stands in front, and the second one is a property like any other. -/
theorem constructor_fidelity_of_withClients :
    ∃ m log', (ClassDeclaration.withClients.extract []).run.run (.opened "")
        = (.ok (.ready m), log')
      ∧ (∃ client others, SetsApart ClassDeclaration.withClients.properties client others
        ∧ constructorParams m = holderParam client :: (others.map PropertyDeclaration.param
          ++ (ClassDeclaration.withClients.supertypes.filter fun t => !t.isAny).map fun t =>
            ⟨Text.lowerCamel (Text.simpleName t.qualifiedName), t, none⟩))
      ∧ constructorParams m
        = [⟨"client", .named TypeName.httpClient, some .overrideVal⟩,
            ⟨"token", .named TypeName.string, some .overrideVar⟩,
            ⟨"spare", .named TypeName.httpClient, some .overrideVar⟩,
            ⟨"closing", .named "demo.Closing", none⟩] := by
  have hready : ClassDeclaration.withClients.isReady [] = true := by
    decide +kernel
  obtain ⟨log', hextract⟩ := ClassDeclaration.extract_of_isReady rfl hready (.opened "")
  obtain ⟨client, others, hapart, -, hparams, -⟩ := constructor_fidelity hextract
  refine ⟨_, log', hextract, ⟨client, others, hapart, hparams⟩, ?_⟩
  decide +kernel

/-- A client that may be set becomes one that may not. -/
theorem client_may_be_frozen : ¬ ∀ (c : ClassDeclaration) (factories : List FunctionDeclaration)
    (m : InterfaceModel) (log log' : Log),
    (c.extract factories).run.run log = (.ok (.ready m), log') →
      ∀ p ∈ c.properties, p.param ∈ constructorParams m := by
  intro hall
  let c : ClassDeclaration :=
    { ClassDeclaration.holding "Users" [] with
      properties := [⟨"client", .named TypeName.httpClient, true, []⟩] }
  have hready : c.isReady [] = true := by
    decide +kernel
  obtain ⟨log', hextract⟩ := ClassDeclaration.extract_of_isReady rfl hready (.opened "")
  have hmem := hall c [] _ _ _ hextract _ List.mem_cons_self
  revert hmem
  decide +kernel

end ClientGen
