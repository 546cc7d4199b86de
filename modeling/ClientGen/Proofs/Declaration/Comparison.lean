/-
  ClientGen/Proofs/Declaration/Comparison.lean
  ============================================
  **When the comparison of two types is right.**

  Types are compared by their displays.  Types that are the same have one display, and legible
  types with one display are the same.  A receiver that is not closed lets its arrow be taken
  for that of the whole (`regrouped`), and so the type is compared as the same with another
  one, wherever in it that receiver is shown.
-/
import ClientGen.Proofs.Declaration.Display

namespace ClientGen.Display

open ClientGen.Text

/-! ### Receivers that are function types -/

theorem not_same_result {t : TypeRef} {name : String} {nullable : Bool}
    {as : List TypeArgument} {resolved typeParameter : Bool} {receiver : Option TypeRef}
    {parameters : List TypeRef} {suspending : Bool} :
    ¬ t.Same ⟨name, nullable, as, resolved, typeParameter,
      some ⟨receiver, parameters, t, suspending⟩⟩ := by
  intro h
  have hshown := congrArg sizeOf ((t.same_iff_shown _).mp h)
  rw [TypeRef.shown_signature, TypeRef.ofSignature] at hshown
  simp at hshown
  omega

theorem displayFunction_true (suspending : Bool) (receiver : Option String)
    (parameters : List String) (returnType : String) :
    displayFunction true suspending receiver parameters returnType
      = "(" ++ displayFunction false suspending receiver parameters returnType ++ ")?" := rfl

/-- The arrow of a bare receiver reads as that of the whole. -/
theorem displayFunction_receiver (nullable : Bool) {suspending suspending' : Bool}
    (honce : (suspending && suspending') = false) (receiver : Option String)
    (parameters parameters' : List String) (returnType returnType' : String) :
    displayFunction nullable suspending
        (some (displayFunction false suspending' receiver parameters' returnType')) parameters
        returnType
      = displayFunction nullable (suspending || suspending') receiver parameters'
        (displayFunction false false (some returnType') parameters returnType) := by
  have hbare : displayFunction false suspending
        (some (displayFunction false suspending' receiver parameters' returnType')) parameters
        returnType
      = displayFunction false (suspending || suspending') receiver parameters'
        (displayFunction false false (some returnType') parameters returnType) := by
    rw [← String.toList_inj]
    cases suspending with
    | false => simp [displayFunction]
    | true =>
      cases suspending' with
      | true => cases honce
      | false => simp [displayFunction]
  cases nullable with
  | false => exact hbare
  | true => rw [displayFunction_true, displayFunction_true, hbare]

/-- A type with the display of another one that it is not, and with its names. -/
structure Confused (t u : TypeRef) : Prop where
  display : t.display = u.display
  notSame : ¬ t.Same u
  names : ∀ P : String → Prop, (∀ n ∈ t.nodes, P n.qualifiedName) →
    ∀ n ∈ u.nodes, P n.qualifiedName

/-- The arrow of the receiver, which shows like `g`, taken for that of the whole. -/
def regrouped (t r : TypeRef) (f g : FunctionType) : TypeRef :=
  ⟨t.qualifiedName, t.nullable, [], true, false, some
    ⟨g.receiver, g.parameters,
      ⟨r.qualifiedName, false, [], true, false,
        some ⟨some g.returnType, f.parameters, f.returnType, false⟩⟩,
      f.suspending || g.suspending⟩⟩

section Regrouped

variable {t r : TypeRef} {f g : FunctionType}

theorem display_regrouped (hf : t.function = some f) (hreceiver : f.receiver = some r)
    (hr : r.display = g.displayAs false) (honce : (f.suspending && g.suspending) = false) :
    t.display = (regrouped t r f g).display := by
  obtain ⟨name, nullable, as, resolved, typeParameter, function⟩ := t
  obtain ⟨receiver, parameters, returnType, suspending⟩ := f
  obtain ⟨receiver', parameters', returnType', suspending'⟩ := g
  cases hf
  cases hreceiver
  have hregrouped := displayFunction_receiver nullable honce (TypeRef.displayOption receiver')
    (TypeRef.displays parameters) (TypeRef.displays parameters') returnType.display
    returnType'.display
  rw [FunctionType.displayAs] at hr
  rw [← hr] at hregrouped
  exact hregrouped

theorem not_same_regrouped (hf : t.function = some f) : ¬ t.Same (regrouped t r f g) := by
  intro h
  obtain ⟨name, nullable, as, resolved, typeParameter, function⟩ := t
  obtain ⟨receiver, parameters, returnType, suspending⟩ := f
  cases hf
  simp only [regrouped, TypeRef.Same, FunctionType.Same] at h
  exact not_same_result h.2.2.2.2

theorem confused_regrouped (hf : t.function = some f) (hreceiver : f.receiver = some r)
    (hr : r.display = g.displayAs false) (honce : (f.suspending && g.suspending) = false)
    (hnames : ∀ P : String → Prop, (∀ n ∈ r.nodes, P n.qualifiedName) →
      (∀ n ∈ TypeRef.optionNodes g.receiver, P n.qualifiedName)
        ∧ (∀ n ∈ TypeRef.allNodes g.parameters, P n.qualifiedName)
        ∧ ∀ n ∈ g.returnType.nodes, P n.qualifiedName) :
    Confused t (regrouped t r f g) := by
  refine ⟨display_regrouped hf hreceiver hr honce, not_same_regrouped hf, fun P ht => ?_⟩
  obtain ⟨name, nullable, as, resolved, typeParameter, function⟩ := t
  obtain ⟨receiver, parameters, returnType, suspending⟩ := f
  cases hf
  cases hreceiver
  obtain ⟨hself, -, hreceiver, hparameters, hresult⟩ := TypeRef.forall_nodes_signature.mp ht
  obtain ⟨hreceiver', hparameters', hresult'⟩ := hnames P hreceiver
  refine TypeRef.forall_nodes_signature.mpr
    ⟨hself, List.forall_mem_nil _, hreceiver', hparameters', ?_⟩
  exact TypeRef.forall_nodes_signature.mpr
    ⟨hreceiver r r.mem_nodes, List.forall_mem_nil _, hresult', hparameters, hresult⟩

end Regrouped

theorem cases_of_not_closed {t : TypeRef} (h : closesReceiver t = false) :
    ∃ f, t.function = some f ∧ ∃ r, f.receiver = some r ∧ ∃ g, r.function = some g
      ∧ r.nullable = false ∧ ((f.suspending && g.suspending) = true → ∃ a, split r = some a) := by
  cases hf : t.function with
  | none => simp [closesReceiver, hf] at h
  | some f =>
    cases hreceiver : f.receiver with
    | none => simp [closesReceiver, hf, hreceiver] at h
    | some r =>
      cases hg : r.function with
      | none => simp [closesReceiver, hf, hreceiver, hg] at h
      | some g =>
        simp only [closesReceiver, hf, hreceiver, hg, Option.all_some, Option.isNone_some,
          Option.any_some, Bool.false_or, Bool.or_eq_false_iff] at h
        refine ⟨f, rfl, r, hreceiver, g, hg, h.1, fun hboth => ?_⟩
        rw [hboth, Bool.true_and, Option.isNone_eq_false_iff, Option.isSome_iff_exists] at h
        exact h.2

theorem display_bare {r : TypeRef} {g : FunctionType} (hg : r.function = some g)
    (hbare : r.nullable = false) : r.display = g.displayAs false := by
  obtain ⟨name, nullable, as, resolved, typeParameter, function⟩ := r
  cases hg
  cases hbare
  rfl

/-- A type whose receiver is not closed: either the arrow of the receiver is taken for that of
    the whole, or, behind two words, an arrow among its results. -/
theorem exists_confused {t : TypeRef} (h : closesReceiver t = false) : ∃ u, Confused t u := by
  obtain ⟨f, hf, r, hreceiver, g, hg, hbare, hopen⟩ := cases_of_not_closed h
  by_cases honce : (f.suspending && g.suspending) = false
  · refine ⟨_, confused_regrouped hf hreceiver (display_bare hg hbare) honce fun P hr => ?_⟩
    obtain ⟨name, nullable, as, resolved, typeParameter, function⟩ := r
    obtain ⟨receiver, parameters, returnType, suspending⟩ := g
    cases hg
    exact (TypeRef.forall_nodes_signature.mp hr).2.2
  · obtain ⟨a, ha⟩ := hopen (by simpa using honce)
    exact ⟨_, confused_regrouped hf hreceiver (display_split ha) (Bool.and_false _) fun P =>
      forall_names_split ha⟩

/-! ### Inside other types -/

section Inside

variable {name : String} {nullable : Bool} {as : List TypeArgument}
  {resolved typeParameter : Bool} {u v : TypeRef}

theorem Confused.inArgument {before after : List TypeArgument} (h : Confused u v) :
    Confused ⟨name, nullable, before ++ .type u :: after, resolved, typeParameter, none⟩
      ⟨name, nullable, before ++ .type v :: after, resolved, typeParameter, none⟩ where
  display := by
    simp only [TypeRef.display, TypeArgument.displays_eq_map, List.map_append, List.map_cons,
      TypeArgument.display, h.display]
  notSame hsame := by
    have hshown := (TypeRef.same_iff_shown _ _).mp hsame
    simp only [TypeRef.shown_plain, TypeArgument.allShownAs_eq_map, List.map_append, List.map_cons,
      TypeArgument.shownAs, TypeRef.mk.injEq, List.append_cancel_left_eq, List.cons.injEq,
      TypeArgument.type.injEq] at hshown
    exact h.notSame ((u.same_iff_shown v).mpr hshown.2.2.1.1)
  names P ht := by
    rw [TypeRef.nodes, TypeArgument.allNodes_append, TypeArgument.allNodes, List.forall_mem_cons,
      List.forall_mem_append, List.forall_mem_append] at ht ⊢
    exact ⟨ht.1, ht.2.1, h.names P ht.2.2.1, ht.2.2.2⟩

variable {receiver : Option TypeRef} {parameters : List TypeRef} {returnType : TypeRef}
  {suspending : Bool}

theorem Confused.inReceiver (h : Confused u v) :
    Confused ⟨name, nullable, as, resolved, typeParameter,
        some ⟨some u, parameters, returnType, suspending⟩⟩
      ⟨name, nullable, as, resolved, typeParameter,
        some ⟨some v, parameters, returnType, suspending⟩⟩ where
  display := by
    simp only [TypeRef.display, FunctionType.displayAs, TypeRef.displayOption, h.display]
  notSame hsame := by
    have hshown := (TypeRef.same_iff_shown _ _).mp hsame
    simp only [TypeRef.shown_signature, TypeRef.ofSignature, TypeRef.mk.injEq, Option.some.injEq,
      FunctionType.mk.injEq, Option.map_some] at hshown
    exact h.notSame ((u.same_iff_shown v).mpr hshown.2.2.2.2.2.1)
  names P ht := by
    rw [TypeRef.forall_nodes_signature] at ht ⊢
    exact ⟨ht.1, ht.2.1, h.names P ht.2.2.1, ht.2.2.2⟩

theorem Confused.inParameter {before after : List TypeRef} (h : Confused u v) :
    Confused ⟨name, nullable, as, resolved, typeParameter,
        some ⟨receiver, before ++ u :: after, returnType, suspending⟩⟩
      ⟨name, nullable, as, resolved, typeParameter,
        some ⟨receiver, before ++ v :: after, returnType, suspending⟩⟩ where
  display := by
    simp only [TypeRef.display, FunctionType.displayAs, TypeRef.displays_eq_map, List.map_append,
      List.map_cons, h.display]
  notSame hsame := by
    have hshown := (TypeRef.same_iff_shown _ _).mp hsame
    simp only [TypeRef.shown_signature, TypeRef.ofSignature, TypeRef.mk.injEq, Option.some.injEq,
      FunctionType.mk.injEq, List.map_append, List.map_cons, List.append_cancel_left_eq,
      List.cons.injEq] at hshown
    exact h.notSame ((u.same_iff_shown v).mpr hshown.2.2.2.2.2.2.1.1)
  names P ht := by
    rw [TypeRef.forall_nodes_signature, TypeRef.allNodes_eq, List.flatMap_append, List.flatMap_cons,
      List.forall_mem_append, List.forall_mem_append] at ht ⊢
    obtain ⟨hself, has, hreceiver, ⟨hbefore, hu, hafter⟩, hresult⟩ := ht
    exact ⟨hself, has, hreceiver, ⟨hbefore, h.names P hu, hafter⟩, hresult⟩

theorem Confused.inResult (h : Confused u v) :
    Confused ⟨name, nullable, as, resolved, typeParameter,
        some ⟨receiver, parameters, u, suspending⟩⟩
      ⟨name, nullable, as, resolved, typeParameter,
        some ⟨receiver, parameters, v, suspending⟩⟩ where
  display := by
    simp only [TypeRef.display, FunctionType.displayAs, h.display]
  notSame hsame := by
    have hshown := (TypeRef.same_iff_shown _ _).mp hsame
    simp only [TypeRef.shown_signature, TypeRef.ofSignature, TypeRef.mk.injEq, Option.some.injEq,
      FunctionType.mk.injEq] at hshown
    exact h.notSame ((u.same_iff_shown v).mpr hshown.2.2.2.2.2.2.2.1)
  names P ht := by
    rw [TypeRef.forall_nodes_signature] at ht ⊢
    obtain ⟨hself, has, hreceiver, hparameters, hu⟩ := ht
    exact ⟨hself, has, hreceiver, hparameters, h.names P hu⟩

end Inside

/-- A confused part confuses the whole. -/
theorem Confused.inside {t u v : TypeRef} (h : Confused u v) (hu : u ∈ t.parts) :
    ∃ w, Confused t w := by
  obtain ⟨name, nullable, as, resolved, typeParameter, function⟩ := t
  cases function with
  | none =>
    have hargument : .type u ∈ as := (TypeRef.mem_parts_plain rfl).mp hu
    obtain ⟨before, after, rfl⟩ := List.append_of_mem hargument
    exact ⟨_, h.inArgument⟩
  | some f =>
    obtain ⟨receiver, parameters, returnType, suspending⟩ := f
    simp only [TypeRef.parts, List.mem_append, List.mem_singleton, Option.mem_toList] at hu
    rcases hu with (rfl | hparameter) | rfl
    · exact ⟨_, h.inReceiver⟩
    · obtain ⟨before, after, rfl⟩ := List.append_of_mem hparameter
      exact ⟨_, h.inParameter⟩
    · exact ⟨_, h.inResult⟩

theorem exists_confused_of_shows {t n : TypeRef} (hn : t.Shows n)
    (hopen : closesReceiver n = false) : ∃ u, Confused t u := by
  induction hn with
  | self t => exact exists_confused hopen
  | part hu _ ih =>
    obtain ⟨v, hv⟩ := ih hopen
    exact hv.inside hu

/-! ### Comparison of types -/

/-- Types that are the same are compared as the same.  The converse holds between types in
    which every receiver is closed.  A type in which one is not is compared as the same with
    another type. -/
theorem sameType_exact (t u : TypeRef) :
    (t.Same u → t.sameType u = true)
    ∧ (Readable t → Readable u → (t.sameType u = true ↔ t.Same u))
    ∧ ∀ n, t.Shows n → closesReceiver n = false →
        ∃ v : TypeRef, v.nodes.map TypeRef.qualifiedName ⊆ t.nodes.map TypeRef.qualifiedName
          ∧ t.sameType v = true ∧ ¬ t.Same v := by
  refine ⟨TypeRef.Same.sameType, ?_, ?_⟩
  · intro ht hu
    constructor
    · intro hsame
      rw [TypeRef.sameType, beq_iff_eq] at hsame
      exact (t.same_iff_shown u).mpr (shown_of_display ht hu hsame)
    · exact TypeRef.Same.sameType
  · intro n hn hopen
    obtain ⟨v, hv⟩ := exists_confused_of_shows hn hopen
    refine ⟨v, ?_, beq_iff_eq.mpr hv.display, hv.notSame⟩
    have hnames := hv.names (· ∈ t.nodes.map TypeRef.qualifiedName)
      fun n hn => List.mem_map_of_mem hn
    intro name hname
    obtain ⟨n, hn, rfl⟩ := List.mem_map.mp hname
    exact hnames n hn

/-- Two functions that suspend, the inner one with a nullable function type as its receiver;
    the same type with an unresolved result; and a list of functions whose receiver is one
    that does not suspend. -/
theorem sameType_exact_of_nested :
    let receiver : TypeRef :=
      ⟨"kotlin.Function0", true, [], true, false,
        some ⟨none, [], ⟨"a.List", false, [.star, .type (.named "a.T")], true, false, none⟩, false⟩⟩
    let inner (suspending : Bool) : TypeRef :=
      ⟨"kotlin.Function2", false, [], true, false,
        some ⟨some receiver, [.named "a.X", .named "a.Y"], .named "a.Z", suspending⟩⟩
    let t (suspending resolved : Bool) : TypeRef :=
      ⟨"kotlin.Function2", false, [], true, false,
        some ⟨some (inner suspending), [.named "a.W"],
          ⟨"a.V", false, [], resolved, false, none⟩, true⟩⟩
    let list : TypeRef := ⟨"a.List", true, [.type (t false true)], true, false, none⟩
    (t true true).display
        = "suspend suspend (() -> a.List<*, a.T>)?.(a.X, a.Y) -> a.Z.(a.W) -> a.V"
      ∧ Readable (t true true) ∧ Readable (t true false)
      ∧ ((t true true).sameType (t true false) = true ↔ (t true true).Same (t true false))
      ∧ closesReceiver (t false true) = false
      ∧ ∃ v : TypeRef, v.nodes.map TypeRef.qualifiedName ⊆ list.nodes.map TypeRef.qualifiedName
        ∧ list.sameType v = true ∧ ¬ list.Same v := by
  intro receiver inner t list
  have htrue : ∀ n ∈ (t true true).nodes, Legible n := by decide
  have hfalse : ∀ n ∈ (t true false).nodes, Legible n := by decide
  have hreadable : Readable (t true true) := fun n hn => htrue n hn.mem_nodes
  have hreadable' : Readable (t true false) := fun n hn => hfalse n hn.mem_nodes
  have hopen : closesReceiver (t false true) = false := by decide
  have hshows : list.Shows (t false true) := .part List.mem_cons_self (.self _)
  exact ⟨by decide, hreadable, hreadable',
    (sameType_exact (t true true) (t true false)).2.1 hreadable hreadable', hopen,
    (sameType_exact list list).2.2 _ hshows hopen⟩

/-- The comparison takes `((a.A) -> a.B).(a.C) -> a.D` for `(a.A) -> a.B.(a.C) -> a.D`. -/
theorem sameType_may_confuse :
    ¬ ∀ t u : TypeRef, (∀ n ∈ t.nodes ++ u.nodes, isName n.qualifiedName = true) →
      (t.sameType u = true ↔ t.Same u) := by
  intro h
  let t : TypeRef :=
    ⟨"kotlin.Function2", false, [], true, false,
      some ⟨some ⟨"kotlin.Function1", false, [], true, false,
          some ⟨none, [.named "a.A"], .named "a.B", false⟩⟩,
        [.named "a.C"], .named "a.D", false⟩⟩
  let u : TypeRef :=
    ⟨"kotlin.Function1", false, [], true, false,
      some ⟨none, [.named "a.A"],
        ⟨"kotlin.Function2", false, [], true, false,
          some ⟨some (.named "a.B"), [.named "a.C"], .named "a.D", false⟩⟩, false⟩⟩
  have hnames : ∀ n ∈ t.nodes ++ u.nodes, isName n.qualifiedName = true := by decide
  have hsame := (h t u hnames).mp (by decide)
  simp [t, u, TypeRef.Same, FunctionType.Same, TypeRef.OptionSame] at hsame

end ClientGen.Display
