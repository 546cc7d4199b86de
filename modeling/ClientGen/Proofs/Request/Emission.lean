/-
  ClientGen/Proofs/Request/Emission.lean
  ======================================
  **What the roles of parameters put into a request.**

  Every kind of role belongs to one group of statements.  `Emits p r s` says that the
  statement `s` is what the role `r` of the parameter `p` asks for: one call, on the
  parameter itself or on each of its values inside a guard or a loop.  The writing
  functions go through roles in their own ways; the lemmas here bring each way back to
  the uses of a group in declaration order.
-/
import ClientGen.Proofs.Imports
import ClientGen.Proofs.Model.Roles
import ClientGen.Proofs.Text.Pieces
import ClientGen.Request.Population
import ClientGen.Validation.ClassLevel
import Mathlib.Data.List.Basic

namespace ClientGen.Request

open ClientGen.Code ClientGen.Text

/-! ### Groups -/

/-- Roles whose statements stand together. -/
inductive RoleGroup where
  | urls
  | path
  | queries
  | fragments
  | headers
  | cookies
  | fields
  | parts
  | body
  | tags
deriving DecidableEq

/-- The group of a kind of role. -/
def groupOf : RoleKind → RoleGroup
  | .url => .urls
  | .path => .path
  | .query | .queryName | .queryMap => .queries
  | .fragment => .fragments
  | .header | .headerMap => .headers
  | .cookie => .cookies
  | .field | .fieldMap => .fields
  | .part | .partMap => .parts
  | .body => .body
  | .tag => .tags

/-- The roles of a group beside their parameters, in declaration order. -/
def usesIn (f : FunctionModel) (g : RoleGroup) : List (ParameterModel × Role) :=
  (roleUses f).filter fun use => groupOf use.2.kind == g

/-- The roles of a group on one parameter. -/
def rolesIn (p : ParameterModel) (g : RoleGroup) : List Role :=
  p.roles.filter fun r => groupOf r.kind == g

theorem usesIn_eq_flatMap (f : FunctionModel) (g : RoleGroup) :
    usesIn f g = f.parameters.flatMap fun p => (rolesIn p g).map fun r => (p, r) := by
  unfold usesIn roleUses rolesIn
  rw [List.filter_flatMap]
  congr 1
  funext p
  rw [List.filter_map]
  rfl

/-! ### Calls on values -/

/-- What runs a block on the values of an expression that are not null. -/
def runners : List String :=
  ["?.let", ".forEach", "?.forEach", ".filterNotNull().forEach", "?.filterNotNull()?.forEach"]

/-- The statement is one call on an expression, or on each of its values. -/
inductive RunsOn (call : Value → String) (code : String) : Statement → Prop
  | itself (isText : Bool) : RunsOn call code (.expression (call ⟨code, isText⟩))
  | each {opening runner : String} (known : runner ∈ runners) (on : opening = code ++ runner)
      (isText : Bool) :
      RunsOn call code (.block (.plain opening [.expression (call ⟨"it", isText⟩)]))

/-- The statement is one call on the name and the value of an entry. -/
inductive RunsOnEntry (call : String → Value → String) (item : String) : Statement → Prop
  | plain (key value : String) (isText : Bool) :
      RunsOnEntry call item (.expression (call (item ++ key) ⟨item ++ value, isText⟩))
  | guarded (key value : String) (isText : Bool) :
      RunsOnEntry call item (.block (.lambda (item ++ value ++ "?.let") "value"
        [.expression (call (item ++ key) ⟨"value", isText⟩)]))

/-- What runs a block on one entry or on every entry. -/
def entryRunners : List String :=
  [".let", "?.let", ".forEach", "?.forEach"]

/-- The statement is one call on every entry of an expression. -/
inductive RunsOnEntries (call : String → Value → String) : String → Statement → Prop
  | entries {code opening runner item : String} {s : Statement} (known : runner ∈ entryRunners)
      (on : opening = code ++ runner) (inner : RunsOnEntry call item s) :
      RunsOnEntries call code (.block (.lambda opening item [s]))
  | maps {code inside : String} {s : Statement} (inner : RunsOnEntries call inside s) :
      RunsOnEntries call code (.block (.lambda (code ++ ".forEach") inside [s]))

/-- What is written for the values of a parameter is one call, whatever its shape. -/
theorem eachValue_runsOn (call : Value → String) (name : String) (s : TypeShape) :
    RunsOn call name (eachValue name s fun v => .expression (call v)) := by
  obtain ⟨container, containerNullable, element, elementNullable⟩ := s
  unfold eachValue
  cases container with
  | single =>
    cases containerNullable with
    | false => exact .itself _
    | true => exact .each (show "?.let" ∈ runners by decide) rfl _
  | many =>
    cases containerNullable with
    | false =>
      cases elementNullable with
      | false =>
        refine .each (show ".forEach" ∈ runners by decide) ?_ _
        simp [elementsOf]
      | true =>
        refine .each (show ".filterNotNull().forEach" ∈ runners by decide) ?_ _
        simp only [elementsOf, String.append_assoc]
        rfl
    | true =>
      cases elementNullable with
      | false =>
        refine .each (show "?.forEach" ∈ runners by decide) ?_ _
        simp only [elementsOf, String.append_assoc]
        rfl
      | true =>
        refine .each (show "?.filterNotNull()?.forEach" ∈ runners by decide) ?_ _
        simp only [elementsOf, String.append_assoc]
        rfl

theorem entryStatement_runsOn (call : String → Value → String) (t : TypeRef) :
    RunsOnEntry call (EntryNames.of t).item
      (entryStatement t fun key v => .expression (call key v)) := by
  unfold entryStatement EntryNames.of
  by_cases hpair : t.isPair = true
  · rw [if_pos hpair]
    by_cases hnull : hasNullableValues t = true
    · rw [if_pos hnull]
      exact .guarded ".first" ".second" _
    · rw [if_neg hnull]
      exact .plain ".first" ".second" _
  · rw [if_neg hpair]
    by_cases hnull : hasNullableValues t = true
    · rw [if_pos hnull]
      exact .guarded ".key" ".value" _
    · rw [if_neg hnull]
      exact .plain ".key" ".value" _

theorem entriesOf_runner (name : String) (t : TypeRef) :
    ∃ runner ∈ entryRunners, entriesOf name t = name ++ runner := by
  unfold entriesOf
  cases t.nullable with
  | false =>
    cases t.isPair with
    | false => exact ⟨".forEach", by decide, by simp⟩
    | true => exact ⟨".let", by decide, by simp⟩
  | true =>
    cases t.isPair with
    | false => exact ⟨"?.forEach", by decide, by simp only [String.append_assoc]; rfl⟩
    | true => exact ⟨"?.let", by decide, by simp only [String.append_assoc]; rfl⟩

theorem eachEntry_runsOn (call : String → Value → String) (p : ParameterModel) :
    RunsOnEntries call p.name (eachEntry p fun key v => .expression (call key v)) := by
  have hentry := entryStatement_runsOn call p.type
  unfold eachEntry
  by_cases hsingle : (!p.isVararg) = true
  · obtain ⟨runner, hknown, hon⟩ := entriesOf_runner p.name p.type
    simp only [if_pos hsingle]
    exact .entries hknown hon hentry
  · simp only [if_neg hsingle]
    by_cases hpair : p.type.isPair = true
    · rw [if_pos hpair]
      exact .entries (show ".forEach" ∈ entryRunners by decide) rfl hentry
    · obtain ⟨runner, hknown, hon⟩ := entriesOf_runner "_map" p.type
      rw [if_neg hpair]
      exact .maps (.entries hknown hon hentry)

/-! ### Emissions -/

/-- A header or a field with a value. -/
def appended (name value : String) : String :=
  "this.append(" ++ name ++ ", " ++ value ++ ")"

def decoderOf (encoded : Bool) : Option String :=
  if encoded then some "decodeURLQueryComponent" else none

def cookieCall (c : Cookie) (expires value : String) : String :=
  "this.cookie(name = " ++ quoted c.name ++ ", value = " ++ value ++ ", "
    ++ cookieArguments c expires ++ ")"

def tagCall (key type name value : String) : String :=
  "this.attributes.put(" ++ key ++ "<" ++ type ++ ">(" ++ quoted name ++ "), " ++ value ++ ")"

/-- The statement is what the role of a parameter asks for.  A path role asks for no
    statement: its value stands inside the path. -/
def Emits (p : ParameterModel) (r : Role) (s : Statement) : Prop :=
  match r with
  | .path .. => False
  | .url => s = .expression ("this.takeFrom(" ++ p.name ++ ")")
  | .query name encoded =>
    RunsOn (fun v => "this." ++ queryTarget encoded ++ ".append(" ++ quoted name ++ ", "
      ++ v.text ++ ")") p.name s
  | .queryName encoded =>
    RunsOn (fun v => "this." ++ queryTarget encoded ++ ".appendAll(" ++ v.text
      ++ ", emptyList())") p.name s
  | .queryMap encoded =>
    RunsOnEntries (fun key v => "this." ++ queryTarget encoded ++ ".append(" ++ key ++ ", "
      ++ v.text ++ ")") p.name s
  | .fragment encoded =>
    RunsOn (fun v => "this." ++ fragmentTarget encoded ++ " = " ++ v.text) p.name s
  | .header name => RunsOn (fun v => appended (quoted (trim name)) v.text) p.name s
  | .headerMap => RunsOnEntries (fun key v => appended key v.text) p.name s
  | .cookie c => ∃ expires, match c.value with
    | .literal value => s = .expression (cookieCall c expires (quoted value))
    | .fromParameter => RunsOn (fun v => cookieCall c expires v.text) p.name s
  | .field name encoded =>
    RunsOn (fun v => appended (quoted name) (fieldText (decoderOf encoded) v)) p.name s
  | .fieldMap encoded =>
    RunsOnEntries (fun key v => appended key (fieldText (decoderOf encoded) v)) p.name s
  | .part name _ =>
    if p.shape.element.is TypeName.partData then
      RunsOn (fun v => partsName ++ ".add(" ++ v.code ++ ")") p.name s
    else RunsOn (fun v => appended (quoted name) v.text) p.name s
  | .partMap _ => RunsOnEntries (fun key v => appended key v.text) p.name s
  | .body => s = .expression ("this.setBody(" ++ p.name ++ ")")
  | .tag name => ∃ key type, RunsOn (fun v => tagCall key type name v.code) p.name s

/-- The statements are those of the roles, in order and each once. -/
def EmitsAll (uses : List (ParameterModel × Role)) (ss : List Statement) : Prop :=
  List.Forall₂ (fun use s => Emits use.1 use.2 s) uses ss

/-- What is picked from a role of the group is its emission, and nothing is picked from any
    other role. -/
def IsPicked (g : RoleGroup) (p : ParameterModel) (r : Role) (s? : Option Statement) : Prop :=
  (groupOf r.kind = g ∧ ∃ s, s? = some s ∧ Emits p r s) ∨ (groupOf r.kind ≠ g ∧ s? = none)

/-- What a function picks from a role is its emission. -/
def Picks (g : RoleGroup) (pick : ParameterModel → Role → Option Statement) : Prop :=
  ∀ p r, IsPicked g p r (pick p r)

theorem emitsAll_flatMap {uses : ParameterModel → List (ParameterModel × Role)}
    {write : ParameterModel → List Statement} {ps : List ParameterModel}
    (h : ∀ p ∈ ps, EmitsAll (uses p) (write p)) : EmitsAll (ps.flatMap uses) (ps.flatMap write) := by
  induction ps with
  | nil => exact .nil
  | cons p ps ih =>
    rw [List.flatMap_cons, List.flatMap_cons]
    exact List.rel_append (h p List.mem_cons_self)
      (ih fun q hq => h q (List.mem_cons_of_mem _ hq))

/-- Picking from every parameter in turn goes through the uses of the group in order. -/
theorem Picks.emitsAll {g : RoleGroup} {pick : ParameterModel → Role → Option Statement}
    (h : Picks g pick) (f : FunctionModel) : EmitsAll (usesIn f g) (roleStatements f pick) := by
  rw [usesIn_eq_flatMap]
  refine emitsAll_flatMap fun p _ => ?_
  unfold rolesIn
  induction p.roles with
  | nil => exact .nil
  | cons r rs ih =>
    rcases h p r with ⟨hgroup, s, hpick, hemits⟩ | ⟨hgroup, hpick⟩
    · rw [List.filter_cons_of_pos (by simpa using hgroup), List.filterMap_cons_some hpick]
      exact .cons hemits ih
    · rw [List.filter_cons_of_neg (by simpa using hgroup), List.filterMap_cons_none hpick]
      exact ih

theorem picks_query : Picks .queries queryStatement? := by
  intro p r
  cases r with
  | query name encoded => exact .inl ⟨rfl, _, rfl, eachValue_runsOn _ _ _⟩
  | queryName encoded => exact .inl ⟨rfl, _, rfl, eachValue_runsOn _ _ _⟩
  | queryMap encoded => exact .inl ⟨rfl, _, rfl, eachEntry_runsOn _ p⟩
  | _ => exact .inr ⟨by simp [Role.kind, groupOf], rfl⟩

theorem picks_header : Picks .headers headerStatement? := by
  intro p r
  cases r with
  | header name => exact .inl ⟨rfl, _, rfl, eachValue_runsOn _ _ _⟩
  | headerMap => exact .inl ⟨rfl, _, rfl, eachEntry_runsOn _ p⟩
  | _ => exact .inr ⟨by simp [Role.kind, groupOf], rfl⟩

theorem picks_part : Picks .parts partStatement? := by
  intro p r
  cases r with
  | part name encoding =>
    refine .inl ⟨rfl, _, rfl, ?_⟩
    unfold Emits
    by_cases hpart : p.shape.element.is TypeName.partData = true
    · simp only [if_pos hpart]
      exact eachValue_runsOn _ _ _
    · simp only [if_neg hpart]
      exact eachValue_runsOn _ _ _
  | partMap encoding => exact .inl ⟨rfl, _, rfl, eachEntry_runsOn _ p⟩
  | _ => exact .inr ⟨by simp [Role.kind, groupOf], rfl⟩

/-! ### Roles that stand once -/

section Single

variable {p : ParameterModel} {k : RoleKind} {g : RoleGroup}

/-- A role that may stand only once is the first of its kind. -/
theorem rolesOf_eq_role? (hp : Validation.hasTooManyRoles p = false)
    (hk : k.isRepeatable = false) : p.rolesOf k = (p.role? k).toList := by
  have hsingle : (Validation.singleRoles p).length ≤ 1 := by
    unfold Validation.hasTooManyRoles at hp
    rw [Bool.or_eq_false_iff] at hp
    simpa using hp.1
  have hfilter : p.rolesOf k = (Validation.singleRoles p).filter fun r => r.kind == k := by
    unfold ParameterModel.rolesOf Validation.singleRoles
    rw [List.filter_filter]
    refine List.filter_congr fun r _ => ?_
    by_cases hkind : r.kind = k
    · simp [hkind, hk]
    · simp [hkind]
  have hlength : (p.rolesOf k).length ≤ 1 := by
    rw [hfilter]
    exact Nat.le_trans (List.length_filter_le _ _) hsingle
  rw [p.role?_eq_head?]
  match hroles : p.rolesOf k with
  | [] => rfl
  | [r] => rfl
  | r :: s :: rest => rw [hroles] at hlength; simp at hlength

theorem rolesIn_eq_rolesOf (hg : ∀ k', groupOf k' = g ↔ k' = k) : rolesIn p g = p.rolesOf k := by
  refine List.filter_congr fun r _ => ?_
  have hkind := hg r.kind
  by_cases h : r.kind = k
  · rw [beq_iff_eq.mpr h, beq_iff_eq.mpr (hkind.mpr h)]
  · rw [beq_eq_false_iff_ne.mpr h, beq_eq_false_iff_ne.mpr (mt hkind.mp h)]

theorem rolesIn_eq_role? (hp : Validation.hasTooManyRoles p = false)
    (hk : k.isRepeatable = false) (hg : ∀ k', groupOf k' = g ↔ k' = k) :
    rolesIn p g = (p.role? k).toList := by
  rw [rolesIn_eq_rolesOf hg, rolesOf_eq_role? hp hk]

/-- A group of one kind that stands once is used at most once by every parameter. -/
theorem usesIn_eq_filterMap {f : FunctionModel}
    (hf : ∀ p ∈ f.parameters, Validation.hasTooManyRoles p = false)
    (hk : k.isRepeatable = false) (hg : ∀ k', groupOf k' = g ↔ k' = k) :
    usesIn f g = f.parameters.filterMap fun p => (p.role? k).map fun r => (p, r) := by
  rw [usesIn_eq_flatMap, List.filterMap_eq_flatMap_toList]
  refine List.flatMap_congr fun p hp => ?_
  rw [rolesIn_eq_role? (hf p hp) hk hg]
  cases p.role? k <;> rfl

end Single

/-! ### Uses of single groups -/

section Uses

variable {f : FunctionModel} (hf : ∀ p ∈ f.parameters, Validation.hasTooManyRoles p = false)

include hf

/-- A kind whose role says nothing more is used by the parameters that have it. -/
theorem usesIn_of_plain {g : RoleGroup} {r : Role} (hk : r.kind.isRepeatable = false)
    (hg : ∀ k', groupOf k' = g ↔ k' = r.kind)
    (hr : ∀ r' : Role, r'.kind = r.kind → r' = r) :
    usesIn f g = (f.parametersWith r.kind).map fun p => (p, r) := by
  rw [usesIn_eq_filterMap hf hk hg, FunctionModel.parametersWith, ← List.filterMap_eq_filter,
    List.map_filterMap]
  refine List.filterMap_congr fun p _ => ?_
  have hsome := p.isSome_role? r.kind
  cases hrole : p.role? r.kind with
  | none =>
    rw [hrole] at hsome
    simp [Option.guard, ← hsome]
  | some r' =>
    rw [hrole] at hsome
    rw [hr r' (ParameterModel.kind_of_role? hrole)]
    simp [Option.guard, ← hsome]

theorem usesIn_urls : usesIn f .urls = (f.parametersWith .url).map fun p => (p, .url) := by
  refine usesIn_of_plain (r := .url) hf rfl (fun k => by cases k <;> decide) fun r hr => ?_
  cases r <;> first | rfl | cases hr

theorem usesIn_body : usesIn f .body = (f.parametersWith .body).map fun p => (p, .body) := by
  refine usesIn_of_plain (r := .body) hf rfl (fun k => by cases k <;> decide) fun r hr => ?_
  cases r <;> first | rfl | cases hr

theorem usesIn_tags : usesIn f .tags = (tagged f).map fun use => (use.1, .tag use.2) := by
  rw [usesIn_eq_filterMap (k := .tag) hf rfl (fun k => by cases k <;> decide), tagged,
    List.map_filterMap]
  refine List.filterMap_congr fun p _ => ?_
  unfold tagName?
  cases hrole : p.role? .tag with
  | none => rfl
  | some r =>
    have hkind := ParameterModel.kind_of_role? hrole
    cases r <;> first | rfl | cases hkind

theorem fragments_emitsAll :
    EmitsAll (usesIn f .fragments) (f.parameters.filterMap fragmentStatement?) := by
  rw [usesIn_eq_flatMap, List.filterMap_eq_flatMap_toList]
  refine emitsAll_flatMap fun p hp => ?_
  rw [rolesIn_eq_role? (k := .fragment) (hf p hp) rfl fun k => by cases k <;> decide]
  unfold fragmentStatement?
  cases hrole : p.role? .fragment with
  | none => exact .nil
  | some r =>
    have hkind := ParameterModel.kind_of_role? hrole
    cases r with
    | fragment encoded => exact .cons (eachValue_runsOn _ _ _) .nil
    | _ => cases hkind

end Uses

theorem usesIn_cookies (f : FunctionModel) :
    usesIn f .cookies = (parameterCookies f).map fun use => (use.1, .cookie use.2) := by
  rw [usesIn_eq_flatMap, parameterCookies, List.map_flatMap]
  refine List.flatMap_congr fun p _ => ?_
  unfold rolesIn
  rw [List.map_map]
  induction p.roles with
  | nil => rfl
  | cons r rs ih =>
    cases r with
    | cookie c =>
      rw [List.filter_cons_of_pos (by rfl), List.filterMap_cons_some (f := cookieOf?) rfl, List.map_cons,
        List.map_cons, ih]
      rfl
    | _ =>
      rw [List.filter_cons_of_neg (by simp [Role.kind, groupOf]),
        List.filterMap_cons_none (f := cookieOf?) rfl]
      exact ih

/-! ### Calls inside statements -/

mutual
/-- The expressions of a statement, those inside its blocks included. -/
def callsOf : Statement → List String
  | .expression code => [code]
  | .block b => callsOfBlock b
  | .value .. | .returning _ | .raw _ => []

def callsOfBlock : Block → List String
  | ⟨_, _, body, branches, _⟩ => callsIn body ++ callsOfBranches branches

def callsIn : List Statement → List String
  | [] => []
  | s :: ss => callsOf s ++ callsIn ss

def callsOfBranches : List Branch → List String
  | [] => []
  | ⟨_, body⟩ :: bs => callsIn body ++ callsOfBranches bs
end

theorem callsIn_append (ss ss' : List Statement) :
    callsIn (ss ++ ss') = callsIn ss ++ callsIn ss' := by
  induction ss with
  | nil => rfl
  | cons s ss ih => simp only [List.cons_append, callsIn, ih, List.append_assoc]

theorem callsOf_plain (opening : String) (body : List Statement) :
    callsOf (.block (.plain opening body)) = callsIn body := by
  simp [callsOf, callsOfBlock, Block.plain, callsOfBranches]

theorem callsOf_lambda (opening parameters : String) (body : List Statement) :
    callsOf (.block (.lambda opening parameters body)) = callsIn body := by
  simp [callsOf, callsOfBlock, Block.lambda, callsOfBranches]

theorem callsIn_singleton (s : Statement) : callsIn [s] = callsOf s :=
  List.append_nil _

theorem callsIn_blockUnlessEmpty (opening : String) (body : List Statement) :
    callsIn (blockUnlessEmpty opening body) = callsIn body := by
  unfold blockUnlessEmpty
  split
  · rename_i hempty
    rw [List.isEmpty_iff.mp hempty]
  · rw [callsIn_singleton, callsOf_plain]

theorem RunsOn.calls {call : Value → String} {code : String} {s : Statement}
    (h : RunsOn call code s) : ∃ v, callsOf s = [call v] := by
  cases h with
  | itself isText => exact ⟨_, rfl⟩
  | each known on isText => exact ⟨_, callsOf_plain _ _⟩

theorem RunsOnEntry.calls {call : String → Value → String} {item : String} {s : Statement}
    (h : RunsOnEntry call item s) : ∃ key v, callsOf s = [call key v] := by
  cases h with
  | plain key value isText => exact ⟨_, _, rfl⟩
  | guarded key value isText => exact ⟨_, _, callsOf_lambda _ _ _⟩

theorem RunsOnEntries.calls {call : String → Value → String} {code : String} {s : Statement}
    (h : RunsOnEntries call code s) : ∃ key v, callsOf s = [call key v] := by
  induction h with
  | entries known on inner =>
    rw [callsOf_lambda, callsIn_singleton]
    exact inner.calls
  | maps inner ih =>
    rw [callsOf_lambda, callsIn_singleton]
    exact ih

/-! ### Calls that set a body -/

def isSetBody (call : String) : Bool :=
  startsWith call "this.setBody("

theorem isSetBody_append {a : String} (h : isSetBody a = true) (b : String) :
    isSetBody (a ++ b) = true :=
  startsWith_append h b

/-- The call starts like no call that sets the body. -/
def IsOther (call : String) : Prop :=
  differ "this.setBody(".toList call.toList = true

instance (call : String) : Decidable (IsOther call) :=
  inferInstanceAs (Decidable (_ = true))

namespace IsOther

theorem append {a b : String} (h : IsOther a) : IsOther (a ++ b) :=
  StartsOtherwise.append h b

theorem isSetBody {call : String} (h : IsOther call) : Request.isSetBody call = false :=
  StartsOtherwise.startsWith_eq_false h

theorem query (encoded : Bool) : IsOther ("this." ++ queryTarget encoded) := by
  cases encoded <;> decide

theorem fragment (encoded : Bool) : IsOther ("this." ++ fragmentTarget encoded) := by
  cases encoded <;> decide

theorem appended (name value : String) : IsOther (Request.appended name value) :=
  have h : IsOther "this.append(" := by decide
  h.append.append.append.append

theorem cookieCall (c : Cookie) (expires value : String) :
    IsOther (Request.cookieCall c expires value) :=
  have h : IsOther "this.cookie(name = " := by decide
  h.append.append.append.append.append.append

theorem tagCall (key type name value : String) :
    IsOther (Request.tagCall key type name value) :=
  have h : IsOther "this.attributes.put(" := by decide
  h.append.append.append.append.append.append.append.append

end IsOther

/-- An emission is one call, and only that of a body sets the body. -/
theorem Emits.calls {p : ParameterModel} {r : Role} {s : Statement} (h : Emits p r s) :
    ∃ call, callsOf s = [call] ∧ (r ≠ .body → IsOther call) := by
  have htake : IsOther "this.takeFrom(" := by decide
  have hadd : IsOther (partsName ++ ".add(") := by decide
  cases r with
  | path name encoded => cases h
  | url => exact ⟨_, by rw [h]; rfl, fun _ => htake.append.append⟩
  | body => exact ⟨_, by rw [h]; rfl, fun hne => (hne rfl).elim⟩
  | query name encoded =>
    obtain ⟨v, hcalls⟩ := RunsOn.calls h
    exact ⟨_, hcalls, fun _ => (IsOther.query encoded).append.append.append.append.append⟩
  | queryName encoded =>
    obtain ⟨v, hcalls⟩ := RunsOn.calls h
    exact ⟨_, hcalls, fun _ => (IsOther.query encoded).append.append.append⟩
  | queryMap encoded =>
    obtain ⟨key, v, hcalls⟩ := RunsOnEntries.calls h
    exact ⟨_, hcalls, fun _ => (IsOther.query encoded).append.append.append.append.append⟩
  | fragment encoded =>
    obtain ⟨v, hcalls⟩ := RunsOn.calls h
    exact ⟨_, hcalls, fun _ => (IsOther.fragment encoded).append.append⟩
  | header name =>
    obtain ⟨v, hcalls⟩ := RunsOn.calls h
    exact ⟨_, hcalls, fun _ => IsOther.appended _ _⟩
  | headerMap =>
    obtain ⟨key, v, hcalls⟩ := RunsOnEntries.calls h
    exact ⟨_, hcalls, fun _ => IsOther.appended _ _⟩
  | field name encoded =>
    obtain ⟨v, hcalls⟩ := RunsOn.calls h
    exact ⟨_, hcalls, fun _ => IsOther.appended _ _⟩
  | fieldMap encoded =>
    obtain ⟨key, v, hcalls⟩ := RunsOnEntries.calls h
    exact ⟨_, hcalls, fun _ => IsOther.appended _ _⟩
  | partMap encoding =>
    obtain ⟨key, v, hcalls⟩ := RunsOnEntries.calls h
    exact ⟨_, hcalls, fun _ => IsOther.appended _ _⟩
  | part name encoding =>
    unfold Emits at h
    simp only at h
    split at h
    · obtain ⟨v, hcalls⟩ := RunsOn.calls h
      exact ⟨_, hcalls, fun _ => hadd.append.append⟩
    · obtain ⟨v, hcalls⟩ := RunsOn.calls h
      exact ⟨_, hcalls, fun _ => IsOther.appended _ _⟩
  | cookie c =>
    obtain ⟨expires, h⟩ := h
    split at h
    · exact ⟨_, by rw [h]; rfl, fun _ => IsOther.cookieCall _ _ _⟩
    · obtain ⟨v, hcalls⟩ := RunsOn.calls h
      exact ⟨_, hcalls, fun _ => IsOther.cookieCall _ _ _⟩
  | tag name =>
    obtain ⟨key, type, h⟩ := h
    obtain ⟨v, hcalls⟩ := RunsOn.calls h
    exact ⟨_, hcalls, fun _ => IsOther.tagCall _ _ _ _⟩

end ClientGen.Request
