/-
  ClientGen/Proofs/Request/Entries.lean
  =====================================
  **Null guards around entries.**

  The statement of a map-like parameter is run once for every entry whose value is not null,
  in a scope where the names of the entry denote its key and its value (`UsesEntries`).  The
  elements of a vararg of pairs are the one place without a guard: with a null among them
  the statement is not exact any more (`eachEntry_exact`).
-/
import ClientGen.Proofs.Request.Guards
import Mathlib.Data.List.Forall2

namespace ClientGen.Request

open ClientGen.Code ClientGen.Text

/-! ### Entries at run time -/

/-- The entry of a map with its key and its value. -/
def entryIn? : Datum → Option (Datum × Datum)
  | .entry key value => some (key, value)
  | _ => none

/-- The entries of a map, or a pair as its one entry. -/
def entriesIn : Datum → List (Datum × Datum)
  | .map es => es.filterMap entryIn?
  | .pair first second => [(first, second)]
  | _ => []

/-- The entries of a parameter whose values are not null. -/
def entriesHeld (isVararg : Bool) (d : Datum) : List (Datum × Datum) :=
  (if isVararg then (elementsIn d).flatMap entriesIn else entriesIn d).filter
    fun e => !e.2.isNull

/-- The names that statements for entries bind. -/
def entryScopeNames : List String :=
  ["_map", "entry", "pair", "value"]

/-- The scopes differ in the names that statements for entries bind. -/
def AgreesOutside (scope s : Scope) : Prop :=
  ∀ x, x ∉ entryScopeNames → s x = scope x

/-- In a scope the expressions denote the key and the value of an entry. -/
structure UsesEntry (scope : Scope) (key : String) (value : Value) (e : Datum × Datum)
    (s : Scope) : Prop where
  key : evaluate key s = .ok e.1
  value : evaluate value.code s = .ok e.2
  others : AgreesOutside scope s

/-- What is written for a key and a value is run once for every entry, in order. -/
def UsesEntries (scope : Scope) (key : String) (value : Value)
    (run : (String → Value → Statement) → Run) (es : List (Datum × Datum)) : Prop :=
  ∃ scopes, List.Forall₂ (UsesEntry scope key value) es scopes
    ∧ ∀ write, run write = inTurn (runStatement (write key value)) scopes

section Uses

variable {scope s : Scope} {key : String} {value : Value} {e : Datum × Datum}

theorem AgreesOutside.bind {name : String} (h : AgreesOutside scope s) (hname : name ∈ entryScopeNames)
    (d : Datum) : AgreesOutside scope (s.bind name d) := by
  intro x hx
  have hne : x ≠ name := by
    rintro rfl
    exact hx hname
  rw [s.bind_of_ne name d hne]
  exact h x hx

theorem AgreesOutside.refl (scope : Scope) : AgreesOutside scope scope :=
  fun _ _ => rfl

theorem UsesEntries.none {run : (String → Value → Statement) → Run}
    (h : ∀ write, run write = .ok []) : UsesEntries scope key value run [] :=
  ⟨[], .nil, h⟩

theorem UsesEntries.one {run : (String → Value → Statement) → Run}
    (huse : UsesEntry scope key value e s)
    (h : ∀ write, run write = runStatement (write key value) s) :
    UsesEntries scope key value run [e] := by
  refine ⟨[s], .cons huse .nil, fun write => ?_⟩
  rw [inTurn_singleton]
  exact h write

theorem UsesEntries.inTurn {α : Type} {run : α → (String → Value → Statement) → Run}
    {held : α → List (Datum × Datum)} {as : List α}
    (h : ∀ a ∈ as, UsesEntries scope key value (run a) (held a)) :
    UsesEntries scope key value (fun write => Code.inTurn (fun a => run a write) as)
      (as.flatMap held) := by
  induction as with
  | nil => exact .none fun _ => rfl
  | cons a as ih =>
    obtain ⟨hfirst, hrest⟩ := List.forall_mem_cons.mp h
    obtain ⟨scopes, hused, hrun⟩ := hfirst
    obtain ⟨scopes', hused', hrun'⟩ := ih hrest
    refine ⟨scopes ++ scopes', ?_, fun write => ?_⟩
    · rw [List.flatMap_cons]
      exact List.rel_append hused hused'
    · change Code.inTurn (fun a => run a write) (a :: as) = _
      rw [inTurn_cons, inTurn_append, hrun write]
      exact congrArg (fun rest => _ >>= fun first => rest >>= fun last => pure (first ++ last))
        (hrun' write)

end Uses

/-! ### One entry -/

/-- How the value of an entry is called where it is used. -/
def usedEntryValue (t : TypeRef) : Value :=
  ⟨if hasNullableValues t then "value" else (EntryNames.of t).value, hasTextValues t⟩

/-- The value at run time of one entry: a pair, or an entry of a map. -/
def IsEntry (t : TypeRef) (item : Datum) (e : Datum × Datum) : Prop :=
  item = if t.isPair then .pair e.1 e.2 else .entry e.1 e.2

section OneEntry

variable {t : TypeRef} {scope s : Scope} {item : Datum} {e : Datum × Datum}

theorem item_mem (t : TypeRef) : (EntryNames.of t).item ∈ entryScopeNames := by
  unfold EntryNames.of
  split <;> decide

theorem evaluate_entry (hitem : IsEntry t item e)
    (hbound : s (EntryNames.of t).item = some item) :
    evaluate (EntryNames.of t).key s = .ok e.1 ∧ evaluate (EntryNames.of t).value s = .ok e.2 := by
  unfold IsEntry at hitem
  unfold EntryNames.of at hbound ⊢
  cases hpair : t.isPair with
  | true =>
    simp only [hpair, if_true] at hitem hbound ⊢
    have hfirst : Chain.read "pair.first" = ⟨"pair", [⟨false, "first"⟩]⟩ := by rfl
    have hsecond : Chain.read "pair.second" = ⟨"pair", [⟨false, "second"⟩]⟩ := by rfl
    unfold evaluate Chain.evaluate
    rw [hfirst, hsecond]
    dsimp only
    rw [hbound, hitem]
    exact ⟨rfl, rfl⟩
  | false =>
    simp only [hpair, Bool.false_eq_true, if_false] at hitem hbound ⊢
    have hkey : Chain.read "entry.key" = ⟨"entry", [⟨false, "key"⟩]⟩ := by rfl
    have hvalue : Chain.read "entry.value" = ⟨"entry", [⟨false, "value"⟩]⟩ := by rfl
    unfold evaluate Chain.evaluate
    rw [hkey, hvalue]
    dsimp only
    rw [hbound, hitem]
    exact ⟨rfl, rfl⟩

theorem read_valueGuard (t : TypeRef) : Guard.read ((EntryNames.of t).value ++ "?.let")
    = some ⟨Chain.read (EntryNames.of t).value, true, .once⟩ := by
  unfold EntryNames.of
  split <;> rfl

theorem key_bind_value (t : TypeRef) (s : Scope) (v : Datum) :
    evaluate (EntryNames.of t).key (s.bind "value" v) = evaluate (EntryNames.of t).key s := by
  unfold EntryNames.of
  split <;> rfl

theorem usesEntries_entry (hs : AgreesOutside scope s) (hitem : IsEntry t item e)
    (hvalue : hasNullableValues t = false → e.2 ≠ .null) :
    UsesEntries scope (EntryNames.of t).key (usedEntryValue t)
      (fun write => runStatement (entryStatement t write) (s.bind (EntryNames.of t).item item))
      ([e].filter fun e => !e.2.isNull) := by
  have hbound := s.bind_self (EntryNames.of t).item item
  have hagrees := hs.bind (item_mem t) item
  generalize s.bind (EntryNames.of t).item item = inner at hbound hagrees
  obtain ⟨hkey, hfound⟩ := evaluate_entry hitem hbound
  unfold entryStatement usedEntryValue
  dsimp only
  cases hnull : hasNullableValues t with
  | false =>
    have hkept : [e].filter (fun e => !e.2.isNull) = [e] := by
      rw [List.filter_cons, isNull_eq_false.mpr (hvalue hnull)]
      rfl
    rw [hkept]
    exact .one ⟨hkey, hfound, hagrees⟩ fun _ => rfl
  | true =>
    have hdata : (Guard.mk (Chain.read (EntryNames.of t).value) true .once).data inner
        = .ok (if e.2.isNull then [] else [e.2]) := by
      unfold Guard.data
      change evaluate (EntryNames.of t).value inner >>= _ = _
      rw [hfound]
      cases e.2 <;> rfl
    have hrun := fun w => runStatement_guard (read_valueGuard t) hdata (some "value") w
    cases hvalue : e.2.isNull with
    | true =>
      rw [hvalue] at hrun
      have hkept : [e].filter (fun e => !e.2.isNull) = [] := by
        rw [List.filter_cons, hvalue]
        rfl
      rw [hkept]
      exact .none fun write => hrun _
    | false =>
      rw [hvalue] at hrun
      have hkept : [e].filter (fun e => !e.2.isNull) = [e] := by
        rw [List.filter_cons, hvalue]
        rfl
      rw [hkept]
      refine .one (s := inner.bind "value" e.2) ⟨?_, ?_, ?_⟩ fun write => ?_
      · rw [key_bind_value]
        exact hkey
      · exact evaluate_operand (show IsOperand "value" by decide) (inner.bind_self _ _)
      · exact hagrees.bind (by decide) _
      · exact (hrun _).trans (inTurn_singleton _ _)

end OneEntry

/-! ### One map or one pair -/

section OneValue

variable {t : TypeRef} {scope s : Scope} {name : String} {d : Datum} {e : Datum × Datum}

theorem entriesIn_map (es : List (Datum × Datum)) :
    entriesIn (.map (es.map fun e => .entry e.1 e.2)) = es := by
  change (es.map fun e => Datum.entry e.1 e.2).filterMap entryIn? = es
  rw [List.filterMap_map]
  exact List.filterMap_some

theorem not_isPair_of_isMap (h : t.isMap = true) : t.isPair = false := by
  cases hpair : t.isPair with
  | false => rfl
  | true =>
    have hname : t.qualifiedName = TypeName.pair := beq_iff_eq.mp hpair
    unfold TypeRef.isMap TypeRef.is at h
    rw [hname] at h
    revert h
    decide

/-- The types of maps and pairs are no collections and not text. -/
theorem not_others_of_entries (h : t.isMap = true ∨ t.isPair = true) :
    t.isString = false ∧ elementType? t = none := by
  have hnames : t.qualifiedName = TypeName.map ∨ t.qualifiedName = TypeName.mutableMap
      ∨ t.qualifiedName = TypeName.pair := by
    rcases h with hmap | hpair
    · rcases Bool.or_eq_true_iff.mp hmap with hmap | hmap
      · exact .inl (beq_iff_eq.mp hmap)
      · exact .inr (.inl (beq_iff_eq.mp hmap))
    · exact .inr (.inr (beq_iff_eq.mp hpair))
  unfold TypeRef.isString TypeRef.is elementType?
  rcases hnames with hname | hname | hname
  all_goals
    rw [hname]
    exact ⟨by decide, if_neg (by decide)⟩

theorem read_entriesOf (hname : IsOperand name) (t : TypeRef) : Guard.read (entriesOf name t)
    = some ⟨⟨name, []⟩, t.nullable, if t.isPair then .once else .each⟩ := by
  unfold entriesOf
  cases t.nullable with
  | false =>
    cases t.isPair with
    | false =>
      simp only [Bool.false_eq_true, if_false, String.append_empty]
      exact Guard.read_link hname (show _ = "." ++ "forEach" from rfl)
    | true =>
      simp only [Bool.false_eq_true, if_false, if_true, String.append_empty]
      exact Guard.read_link hname (show _ = "." ++ "let" from rfl)
  | true =>
    cases t.isPair with
    | false =>
      simp only [Bool.false_eq_true, if_false, if_true, String.append_assoc]
      exact Guard.read_safeLink hname (show _ = "?." ++ "forEach" from rfl)
    | true =>
      simp only [if_true, String.append_assoc]
      exact Guard.read_safeLink hname (show _ = "?." ++ "let" from rfl)

theorem data_name (g : Guard) (hsource : g.source = ⟨name, []⟩) (hbound : s name = some d) :
    g.data s = g.runner.data g.safe d := by
  unfold Guard.data Chain.evaluate
  rw [hsource]
  dsimp only
  rw [hbound]
  rfl

/-- Where the type of values excludes null, the value of an entry is not null. -/
theorem value_ne_null {v : Datum} (h : ∀ u, t.argument? 1 = some u → Conforms u v)
    (hnull : hasNullableValues t = false) : v ≠ .null := by
  unfold hasNullableValues at hnull
  cases hargument : t.argument? 1 with
  | none =>
    rw [hargument] at hnull
    cases hnull
  | some u =>
    rw [hargument] at hnull
    exact (h u hargument).ne_null hnull

theorem usesEntries_value (hname : IsOperand name) (hbound : s name = some d)
    (hs : AgreesOutside scope s) (hd : Conforms t d) (ht : t.isMap = true ∨ t.isPair = true) :
    UsesEntries scope (EntryNames.of t).key (usedEntryValue t)
      (fun write => runStatement (.block (.lambda (entriesOf name t) (EntryNames.of t).item
        [entryStatement t write])) s)
      ((entriesIn d).filter fun e => !e.2.isNull) := by
  obtain ⟨hstring, hsingle⟩ := not_others_of_entries ht
  have hread := read_entriesOf hname t
  have hblock : ∀ data, (if t.isPair then Runner.once else .each).data t.nullable d = .ok data →
      ∀ write, runStatement (.block (.lambda (entriesOf name t) (EntryNames.of t).item
          [entryStatement t write])) s
        = inTurn (fun item => runStatement (entryStatement t write)
            (s.bind (EntryNames.of t).item item)) data := by
    intro data hdata write
    exact runStatement_guard hread ((data_name _ rfl hbound).trans hdata) (some _) _
  cases hd with
  | text isString =>
    rw [hstring] at isString
    cases isString
  | elements element all =>
    rw [hsingle] at element
    cases element
  | other noText single noMap noPair something =>
    rw [noMap, noPair] at ht
    rcases ht with h | h <;> cases h
  | null nullable =>
    refine .none fun write => hblock [] ?_ write
    rw [nullable]
    cases t.isPair <;> rfl
  | @pair _ first second isPair one other =>
    have hitem : IsEntry t (.pair first second) (first, second) := by
      unfold IsEntry
      rw [isPair]
      rfl
    obtain ⟨scopes, hused, hrun⟩ := usesEntries_entry hs hitem (value_ne_null other)
    refine ⟨scopes, hused, fun write => ?_⟩
    refine (hblock [.pair first second] (by rw [isPair]; rfl) write).trans ?_
    rw [inTurn_singleton]
    exact hrun write
  | @map _ es isMap keys values =>
    have hpair := not_isPair_of_isMap isMap
    have heach : ∀ e ∈ es, UsesEntries scope (EntryNames.of t).key (usedEntryValue t)
        (fun write => runStatement (entryStatement t write)
          (s.bind (EntryNames.of t).item (.entry e.1 e.2)))
        ([e].filter fun e => !e.2.isNull) := by
      intro e he
      have hitem : IsEntry t (.entry e.1 e.2) e := by
        unfold IsEntry
        rw [hpair]
        rfl
      exact usesEntries_entry hs hitem (value_ne_null (values e he))
    obtain ⟨scopes, hused, hrun⟩ := UsesEntries.inTurn heach
    rw [← List.filter_flatMap, List.flatMap_singleton'] at hused
    rw [entriesIn_map]
    refine ⟨scopes, hused, fun write => ?_⟩
    refine (hblock (es.map fun e => .entry e.1 e.2) (by rw [hpair]; rfl) write).trans ?_
    rw [inTurn_map]
    exact hrun write

theorem Conforms.of_isPair (hd : Conforms t d) (ht : t.isPair = true) : d = .null
    ∨ ∃ first second, d = .pair first second ∧ ∀ u, t.argument? 1 = some u → Conforms u second := by
  obtain ⟨hstring, hsingle⟩ := not_others_of_entries (.inr ht)
  cases hd with
  | null nullable => exact .inl rfl
  | pair isPair one other => exact .inr ⟨_, _, rfl, other⟩
  | text isString =>
    rw [hstring] at isString
    cases isString
  | elements element all =>
    rw [hsingle] at element
    cases element
  | map isMap keys values =>
    rw [not_isPair_of_isMap isMap] at ht
    cases ht
  | other noText single noMap noPair something =>
    rw [noPair] at ht
    cases ht

end OneValue

/-! ### Parameters -/

section Parameters

variable {p : ParameterModel} {scope : Scope} {d : Datum} {ds : List Datum}

/-- A vararg of pairs with a null among them, which nothing guards. -/
def HasBareNull (p : ParameterModel) (d : Datum) : Prop :=
  p.isVararg = true ∧ p.type.isPair = true ∧ .null ∈ elementsIn d

theorem isMap_or_isPair {demand : Bool} {shape : MapShape} (h : p.mapShape? demand = some shape) :
    p.type.isMap = true ∨ p.type.isPair = true := by
  unfold ParameterModel.mapShape? MapShape.of? MapShape.container? at h
  cases hmap : p.type.isMap with
  | true => exact .inl rfl
  | false =>
    cases hpair : p.type.isPair with
    | true => exact .inr rfl
    | false =>
      rw [hmap, hpair] at h
      cases h

theorem eachEntry_single (hvararg : p.isVararg = false) (write : String → Value → Statement) :
    eachEntry p write = .block (.lambda (entriesOf p.name p.type) (EntryNames.of p.type).item
      [entryStatement p.type write]) := by
  unfold eachEntry
  rw [hvararg]
  rfl

theorem eachEntry_pairs (hvararg : p.isVararg = true) (hpair : p.type.isPair = true)
    (write : String → Value → Statement) :
    eachEntry p write = .block (.lambda (p.name ++ ".forEach") (EntryNames.of p.type).item
      [entryStatement p.type write]) := by
  unfold eachEntry
  rw [hvararg, hpair]
  rfl

theorem eachEntry_maps (hvararg : p.isVararg = true) (hpair : p.type.isPair = false)
    (write : String → Value → Statement) :
    eachEntry p write = .block (.lambda (p.name ++ ".forEach") "_map"
      [.block (.lambda (entriesOf "_map" p.type) (EntryNames.of p.type).item
        [entryStatement p.type write])]) := by
  unfold eachEntry
  rw [hvararg, hpair]
  rfl

theorem read_forEach {name : String} (hname : IsOperand name) :
    Guard.read (name ++ ".forEach") = some ⟨⟨name, []⟩, false, .each⟩ :=
  Guard.read_link hname (show _ = "." ++ "forEach" from rfl)

/-- A loop over a vararg runs its body on every element. -/
theorem runStatement_vararg {name item : String} (hname : IsOperand name)
    (hbound : scope name = some (.elements ds)) (s : Statement) :
    runStatement (.block (.lambda (name ++ ".forEach") item [s])) scope
      = inTurn (fun d => runStatement s (scope.bind item d)) ds :=
  runStatement_guard (read_forEach hname) (data_name _ rfl hbound) (some item) s

theorem usesEntries_pairs (hname : IsOperand p.name) (hbound : scope p.name = some (.elements ds))
    (hpair : p.type.isPair = true) (hds : ∀ d ∈ ds, Conforms p.type d) (hnulls : .null ∉ ds) :
    UsesEntries scope (EntryNames.of p.type).key (usedEntryValue p.type)
      (fun write => runStatement (.block (.lambda (p.name ++ ".forEach")
        (EntryNames.of p.type).item [entryStatement p.type write])) scope)
      ((ds.flatMap entriesIn).filter fun e => !e.2.isNull) := by
  have heach : ∀ d ∈ ds, UsesEntries scope (EntryNames.of p.type).key (usedEntryValue p.type)
      (fun write => runStatement (entryStatement p.type write)
        (scope.bind (EntryNames.of p.type).item d))
      ((entriesIn d).filter fun e => !e.2.isNull) := by
    intro d hd
    rcases (hds d hd).of_isPair hpair with rfl | ⟨first, second, rfl, hsecond⟩
    · exact (hnulls hd).elim
    · have hitem : IsEntry p.type (.pair first second) (first, second) := by
        unfold IsEntry
        rw [hpair]
        rfl
      exact usesEntries_entry (.refl scope) hitem (value_ne_null hsecond)
  obtain ⟨scopes, hused, hrun⟩ := UsesEntries.inTurn heach
  rw [List.filter_flatMap]
  exact ⟨scopes, hused, fun write => (runStatement_vararg hname hbound _).trans (hrun write)⟩

theorem usesEntries_maps (hname : IsOperand p.name) (hbound : scope p.name = some (.elements ds))
    (ht : p.type.isMap = true ∨ p.type.isPair = true) (hds : ∀ d ∈ ds, Conforms p.type d) :
    UsesEntries scope (EntryNames.of p.type).key (usedEntryValue p.type)
      (fun write => runStatement (.block (.lambda (p.name ++ ".forEach") "_map"
        [.block (.lambda (entriesOf "_map" p.type) (EntryNames.of p.type).item
          [entryStatement p.type write])])) scope)
      ((ds.flatMap entriesIn).filter fun e => !e.2.isNull) := by
  have heach : ∀ d ∈ ds, UsesEntries scope (EntryNames.of p.type).key (usedEntryValue p.type)
      (fun write => runStatement (.block (.lambda (entriesOf "_map" p.type)
        (EntryNames.of p.type).item [entryStatement p.type write])) (scope.bind "_map" d))
      ((entriesIn d).filter fun e => !e.2.isNull) := by
    intro d hd
    exact usesEntries_value (by decide) (scope.bind_self _ d)
      ((AgreesOutside.refl scope).bind (by decide) d) (hds d hd) ht
  obtain ⟨scopes, hused, hrun⟩ := UsesEntries.inTurn heach
  rw [List.filter_flatMap]
  exact ⟨scopes, hused, fun write => (runStatement_vararg hname hbound _).trans (hrun write)⟩

/-! ### A null among pairs -/

/-- A null has no entry, and so there are fewer entries than pairs. -/
theorem length_entries_lt {t : TypeRef} (ht : t.isPair = true) (hds : ∀ d ∈ ds, Conforms t d)
    (hnull : .null ∈ ds) : (ds.flatMap entriesIn).length < ds.length := by
  have hle : ∀ {ds : List Datum}, (∀ d ∈ ds, Conforms t d) →
      (ds.flatMap entriesIn).length ≤ ds.length := by
    intro ds hds
    induction ds with
    | nil => exact Nat.le_refl 0
    | cons d ds ih =>
      obtain ⟨hd, hds⟩ := List.forall_mem_cons.mp hds
      have hrest := ih hds
      rw [List.flatMap_cons, List.length_append, List.length_cons]
      rcases hd.of_isPair ht with rfl | ⟨first, second, rfl, -⟩
      · change 0 + _ ≤ _
        omega
      · change 1 + _ ≤ _
        omega
  obtain ⟨front, back, rfl⟩ := List.append_of_mem hnull
  have hfront := hle fun d hd => hds d (List.mem_append_left _ hd)
  have hback := hle fun d hd => hds d (List.mem_append_right _ (List.mem_cons_of_mem _ hd))
  rw [List.flatMap_append, List.flatMap_cons, List.length_append, List.length_append,
    List.length_append, List.length_cons]
  change _ + (0 + _) < _
  omega

theorem guard_of_null {t : TypeRef} (ht : t.isPair = true) (scope : Scope) :
    ((Guard.mk (Chain.read (EntryNames.of t).value) true .once).data
      (scope.bind (EntryNames.of t).item .null)) = .error .nullReceiver := by
  have hnames : EntryNames.of t = ⟨"pair", "pair.first", "pair.second"⟩ := if_pos ht
  have hread : Chain.read "pair.second" = ⟨"pair", [⟨false, "second"⟩]⟩ := by rfl
  rw [hnames]
  unfold Guard.data Chain.evaluate
  dsimp only
  rw [hread]
  dsimp only
  rw [Scope.bind_self]
  rfl

/-- With a null among the pairs, what is written is run too often or not at all. -/
theorem not_usesEntries_pairs (hname : IsOperand p.name)
    (hbound : scope p.name = some (.elements ds)) (hpair : p.type.isPair = true)
    (hds : ∀ d ∈ ds, Conforms p.type d) (hnull : .null ∈ ds) (key : String) (value : Value) :
    ¬ UsesEntries scope key value
      (fun write => runStatement (.block (.lambda (p.name ++ ".forEach")
        (EntryNames.of p.type).item [entryStatement p.type write])) scope)
      ((ds.flatMap entriesIn).filter fun e => !e.2.isNull) := by
  rintro ⟨scopes, hused, hrun⟩
  have hacts := hrun fun _ _ => .expression ""
  dsimp only at hacts
  rw [runStatement_vararg hname hbound] at hacts
  have hright : inTurn (runStatement (.expression "")) scopes
      = .ok (scopes.map fun s => ⟨s, .expression ""⟩) := inTurn_acts _ scopes
  rw [hright] at hacts
  unfold entryStatement at hacts
  dsimp only at hacts
  cases hvalues : hasNullableValues p.type with
  | true =>
    rw [hvalues, if_pos rfl] at hacts
    have hfirst := runStatement_guard_error (read_valueGuard p.type) (guard_of_null hpair scope)
      (some "value") (.expression "")
    obtain ⟨fault, hfault⟩ := inTurn_error (fun d => runStatement
      (.block (.lambda ((EntryNames.of p.type).value ++ "?.let") "value" [.expression ""]))
      (scope.bind (EntryNames.of p.type).item d)) hnull hfirst
    exact absurd (hacts.symm.trans hfault) nofun
  | false =>
    rw [hvalues] at hacts
    have hleft : inTurn (fun d => runStatement (.expression "")
        (scope.bind (EntryNames.of p.type).item d)) ds
        = .ok (ds.map fun d => ⟨scope.bind (EntryNames.of p.type).item d, .expression ""⟩) :=
      inTurn_acts _ ds
    have hlength := congrArg List.length (Except.ok.inj (hleft.symm.trans hacts))
    rw [List.length_map, List.length_map, ← hused.length_eq] at hlength
    have hkept := List.length_filter_le (fun e => !e.2.isNull) (ds.flatMap entriesIn)
    have hfewer := length_entries_lt hpair hds hnull
    omega

/-- Of a parameter with a map-like type, the statement is run once for every entry whose value
    is not null, in order and without a fault of its own, unless a null stands among the pairs
    of a vararg: no names for the entry make it exact there. -/
theorem eachEntry_exact {demand : Bool} {shape : MapShape} (hname : IsOperand p.name)
    (hshape : p.mapShape? demand = some shape) :
    (∃ key value, ∀ (scope : Scope) (d : Datum), scope p.name = some d →
        ConformsAs p.type p.isVararg d → ¬ HasBareNull p d →
        UsesEntries scope key value (fun write => runStatement (eachEntry p write) scope)
          (entriesHeld p.isVararg d))
      ∧ ∀ (scope : Scope) (d : Datum), scope p.name = some d →
        ConformsAs p.type p.isVararg d → HasBareNull p d → ∀ key value,
        ¬ UsesEntries scope key value (fun write => runStatement (eachEntry p write) scope)
          (entriesHeld p.isVararg d) := by
  have ht := isMap_or_isPair hshape
  constructor
  · refine ⟨(EntryNames.of p.type).key, usedEntryValue p.type, ?_⟩
    intro scope d hbound hd hfree
    cases hvararg : p.isVararg with
    | false =>
      rw [hvararg] at hd
      simp only [eachEntry_single hvararg]
      cases hd with
      | single conforms => exact usesEntries_value hname hbound (.refl scope) conforms ht
    | true =>
      rw [hvararg] at hd
      cases hd with
      | @vararg ds hall =>
        cases hpair : p.type.isPair with
        | true =>
          simp only [eachEntry_pairs hvararg hpair]
          exact usesEntries_pairs hname hbound hpair hall fun h => hfree ⟨hvararg, hpair, h⟩
        | false =>
          simp only [eachEntry_maps hvararg hpair]
          exact usesEntries_maps hname hbound ht hall
  · rintro scope d hbound hd ⟨hvararg, hpair, hnull⟩ key value
    rw [hvararg] at hd ⊢
    simp only [eachEntry_pairs hvararg hpair]
    cases hd with
    | @vararg ds hall => exact not_usesEntries_pairs hname hbound hpair hall hnull key value

def nullablePairs : ParameterModel :=
  ⟨"extras", ⟨"kotlin.Pair", true,
      [.type (.named "kotlin.String"), .type ⟨"kotlin.String", true, [], true, false, none⟩], true,
      false, none⟩,
    true, [], none, []⟩

def somePairs (more : List Datum) : Datum :=
  .elements (.pair (.text "a") (.text "1") :: .pair (.text "b") .null :: more)

theorem pair_conforms {first : String} {second : Datum}
    (h : Conforms ⟨"kotlin.String", true, [], true, false, none⟩ second) :
    Conforms nullablePairs.type (.pair (.text first) second) := by
  refine .pair (by decide) ?_ ?_
  · intro u hu
    cases hu
    exact .text (by decide)
  · intro u hu
    cases hu
    exact h

theorem somePairs_conforms {more : List Datum}
    (h : ∀ d ∈ more, Conforms nullablePairs.type d) :
    ConformsAs nullablePairs.type nullablePairs.isVararg (somePairs more) := by
  refine .vararg ?_
  intro d hd
  rcases List.mem_cons.mp hd with rfl | hd
  · exact pair_conforms (.text (by decide))
  · rcases List.mem_cons.mp hd with rfl | hd
    · exact pair_conforms (.null rfl)
    · exact h d hd

/-- Without a null among them, the pairs are used by their names, the one without a value not. -/
theorem eachEntry_exact_of_pairs :
    IsOperand nullablePairs.name ∧ nullablePairs.mapShape? true = some .pair
      ∧ ∃ key value, ∀ scope : Scope, scope "extras" = some (somePairs []) →
        UsesEntries scope key value (fun write => runStatement (eachEntry nullablePairs write) scope)
          [(.text "a", .text "1")] := by
  have hname : IsOperand nullablePairs.name := by decide
  have hshape : nullablePairs.mapShape? true = some .pair := by decide
  obtain ⟨key, value, hexact⟩ := (eachEntry_exact hname hshape).1
  refine ⟨hname, hshape, key, value, fun scope hbound => ?_⟩
  refine hexact scope (somePairs []) hbound (somePairs_conforms nofun) ?_
  rintro ⟨-, -, hnull⟩
  rcases List.mem_cons.mp hnull with h | h
  · cases h
  · cases List.mem_singleton.mp h

/-- Not every map-like parameter has an exact guard: a vararg of pairs passes its nulls on. -/
theorem entry_guards_not_exact : ¬ ∀ (p : ParameterModel) (demand : Bool) (shape : MapShape),
    IsOperand p.name → p.mapShape? demand = some shape → ∀ (scope : Scope) (d : Datum),
      scope p.name = some d → ConformsAs p.type p.isVararg d → ∃ key value,
        UsesEntries scope key value (fun write => runStatement (eachEntry p write) scope)
          (entriesHeld p.isVararg d) := by
  intro hall
  have hds : ∀ d ∈ [Datum.null], Conforms nullablePairs.type d := by
    intro d hd
    cases List.mem_singleton.mp hd
    exact .null rfl
  have hbound : Scope.bind (fun _ => none) "extras" (.elements [.null]) nullablePairs.name
      = some (.elements [.null]) := Scope.bind_self _ _ _
  obtain ⟨key, value, hexact⟩ := hall nullablePairs true .pair (by decide) (by decide) _ _ hbound
    (.vararg hds)
  simp only [eachEntry_pairs (p := nullablePairs) rfl rfl] at hexact
  exact not_usesEntries_pairs (by decide) hbound rfl hds List.mem_cons_self key value hexact

end Parameters

end ClientGen.Request
