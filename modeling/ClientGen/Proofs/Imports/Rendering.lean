/-
  ClientGen/Proofs/Imports/Rendering.lean
  =======================================
  **Two types of one file are written alike only if they are the same.**

  Whenever a type is written, the finished file would write it by the same text, and that
  text is the display of the type with every class under the name that the file has for it
  (`run_writeType`).  So it can be read back to types with these names.  A name without a
  dot leads back to the class that owns it, and every other one is the class itself
  (`Answered.owning_eq`).
-/
import ClientGen.Proofs.Declaration.Display
import ClientGen.Proofs.Imports.Soundness

namespace ClientGen

open ClientGen.Display ClientGen.Text

/-! ### Types under the names of a file -/

theorem run_bind_known {α β : Type} {w : NameM α} {a : α} {names : ImportTable}
    (h : w.run names = (a, names)) (k : α → NameM β) :
    (w >>= k).run names = (k a).run names := by
  rw [StateT.run_bind, h]
  rfl

section Names

variable {form : String → String} {names : ImportTable}

mutual
/-- Where every class of a type is already known, its written form is a display. -/
theorem run_writeType : ∀ t : TypeRef,
    (∀ n ∈ t.classNames, (writeName n).run names = (form n, names)) →
      (writeType t).run names = ((t.shownAs form).display, names)
  | ⟨name, nullable, arguments, resolved, typeParameter, some f⟩, h => by
    rw [TypeRef.classNames] at h
    rw [writeType, run_writeFunctionType nullable f h]
    rfl
  | ⟨name, nullable, arguments, resolved, true, none⟩, h => by
    rw [TypeRef.classNames, if_pos rfl, List.nil_append] at h
    rw [writeType, if_pos rfl, pure_bind, run_bind_known (run_writeArguments arguments h)]
    rfl
  | ⟨name, nullable, arguments, resolved, false, none⟩, h => by
    rw [TypeRef.classNames, if_neg (by decide), List.forall_mem_append,
      List.forall_mem_singleton] at h
    rw [writeType, if_neg (by decide), run_bind_known h.1,
      run_bind_known (run_writeArguments arguments h.2)]
    rfl

theorem run_writeArguments : ∀ as : List TypeArgument,
    (∀ n ∈ TypeArgument.allClassNames as, (writeName n).run names = (form n, names)) →
      (writeArguments as).run names
        = (TypeArgument.displays (TypeArgument.allShownAs form as), names)
  | [], h => rfl
  | .star :: as, h => by
    rw [TypeArgument.allClassNames] at h
    rw [writeArguments, run_bind_known (run_writeArguments as h)]
    rfl
  | .type t :: as, h => by
    rw [TypeArgument.allClassNames, List.forall_mem_append] at h
    rw [writeArguments, run_bind_known (run_writeType t h.1),
      run_bind_known (run_writeArguments as h.2)]
    rfl

theorem run_writeFunctionType (nullable : Bool) : ∀ f : FunctionType,
    (∀ n ∈ f.classNames, (writeName n).run names = (form n, names)) →
      (writeFunctionType nullable f).run names = ((f.shownAs form).displayAs nullable, names)
  | ⟨receiver, parameters, returnType, suspending⟩, h => by
    rw [FunctionType.classNames, List.forall_mem_append, List.forall_mem_append] at h
    rw [writeFunctionType, run_bind_known (run_writeOptionalType receiver h.1.1),
      run_bind_known (run_writeTypes parameters h.1.2),
      run_bind_known (run_writeType returnType h.2)]
    rfl

theorem run_writeOptionalType : ∀ t : Option TypeRef,
    (∀ n ∈ TypeRef.optionClassNames t, (writeName n).run names = (form n, names)) →
      (writeOptionalType t).run names
        = (TypeRef.displayOption (TypeRef.optionShownAs form t), names)
  | none, h => rfl
  | some t, h => by
    rw [TypeRef.optionClassNames] at h
    rw [writeOptionalType, run_bind_known (run_writeType t h)]
    rfl

theorem run_writeTypes : ∀ ts : List TypeRef,
    (∀ n ∈ TypeRef.allClassNames ts, (writeName n).run names = (form n, names)) →
      (writeTypes ts).run names = (TypeRef.displays (TypeRef.allShownAs form ts), names)
  | [], h => rfl
  | t :: ts, h => by
    rw [TypeRef.allClassNames, List.forall_mem_append] at h
    rw [writeTypes, run_bind_known (run_writeType t h.1), run_bind_known (run_writeTypes ts h.2)]
    rfl
end

end Names

mutual
/-- The classes that a type mentions are those of the plain types inside. -/
theorem TypeRef.exists_of_mem_classNames : ∀ (t : TypeRef) (name : String), name ∈ t.classNames →
    ∃ n ∈ t.nodes, n.function = none ∧ n.qualifiedName = name
  | ⟨own, nullable, arguments, resolved, typeParameter, none⟩, name, h => by
    rcases List.mem_append.mp h with hown | hargument
    · cases typeParameter with
      | true => cases hown
      | false => exact ⟨_, TypeRef.mem_nodes _, rfl, (List.mem_singleton.mp hown).symm⟩
    · obtain ⟨n, hn, hplain⟩ := TypeArgument.exists_of_mem_allClassNames arguments name hargument
      exact ⟨n, List.mem_cons_of_mem _ hn, hplain⟩
  | ⟨own, nullable, arguments, resolved, typeParameter, some f⟩, name, h => by
    obtain ⟨n, hn, hplain⟩ := f.exists_of_mem_classNames name h
    exact ⟨n, List.mem_cons_of_mem _ (List.mem_append_right _ hn), hplain⟩

theorem TypeArgument.exists_of_mem_allClassNames : ∀ (as : List TypeArgument) (name : String),
    name ∈ TypeArgument.allClassNames as →
      ∃ n ∈ TypeArgument.allNodes as, n.function = none ∧ n.qualifiedName = name
  | [], _, h => nomatch h
  | .star :: as, name, h => TypeArgument.exists_of_mem_allClassNames as name h
  | .type t :: as, name, h => by
    rcases List.mem_append.mp h with h | h
    · obtain ⟨n, hn, hplain⟩ := t.exists_of_mem_classNames name h
      exact ⟨n, List.mem_append_left _ hn, hplain⟩
    · obtain ⟨n, hn, hplain⟩ := TypeArgument.exists_of_mem_allClassNames as name h
      exact ⟨n, List.mem_append_right _ hn, hplain⟩

theorem FunctionType.exists_of_mem_classNames : ∀ (f : FunctionType) (name : String),
    name ∈ f.classNames → ∃ n ∈ f.nodes, n.function = none ∧ n.qualifiedName = name
  | ⟨receiver, parameters, returnType, suspending⟩, name, h => by
    rw [FunctionType.classNames] at h
    rw [FunctionType.nodes]
    rcases List.mem_append.mp h with h | h
    · rcases List.mem_append.mp h with h | h
      · obtain ⟨n, hn, hplain⟩ := TypeRef.exists_of_mem_optionClassNames receiver name h
        exact ⟨n, List.mem_append_left _ (List.mem_append_left _ hn), hplain⟩
      · obtain ⟨n, hn, hplain⟩ := TypeRef.exists_of_mem_allClassNames parameters name h
        exact ⟨n, List.mem_append_left _ (List.mem_append_right _ hn), hplain⟩
    · obtain ⟨n, hn, hplain⟩ := returnType.exists_of_mem_classNames name h
      exact ⟨n, List.mem_append_right _ hn, hplain⟩

theorem TypeRef.exists_of_mem_optionClassNames : ∀ (t : Option TypeRef) (name : String),
    name ∈ TypeRef.optionClassNames t →
      ∃ n ∈ TypeRef.optionNodes t, n.function = none ∧ n.qualifiedName = name
  | none, _, h => nomatch h
  | some t, name, h => t.exists_of_mem_classNames name h

theorem TypeRef.exists_of_mem_allClassNames : ∀ (ts : List TypeRef) (name : String),
    name ∈ TypeRef.allClassNames ts →
      ∃ n ∈ TypeRef.allNodes ts, n.function = none ∧ n.qualifiedName = name
  | [], _, h => nomatch h
  | t :: ts, name, h => by
    rcases List.mem_append.mp h with h | h
    · obtain ⟨n, hn, hplain⟩ := t.exists_of_mem_classNames name h
      exact ⟨n, List.mem_append_left _ hn, hplain⟩
    · obtain ⟨n, hn, hplain⟩ := TypeRef.exists_of_mem_allClassNames ts name h
      exact ⟨n, List.mem_append_right _ hn, hplain⟩
end

section Forms

variable {form back whole : String → String}

mutual
/-- One renaming after the other is a third one, as far as the classes go. -/
theorem TypeRef.shownAs_shownAs : ∀ t : TypeRef,
    (∀ n ∈ t.classNames, back (form n) = whole n) → (∀ m ∈ t.nodes, m.typeParameter = false) →
      (t.shownAs form).shownAs back = t.shownAs whole
  | ⟨name, nullable, arguments, resolved, typeParameter, none⟩, hback, hclass => by
    have hself : typeParameter = false := hclass _ (TypeRef.mem_nodes _)
    subst hself
    rw [TypeRef.classNames, if_neg (by decide), List.forall_mem_append,
      List.forall_mem_singleton] at hback
    rw [TypeRef.nodes, List.forall_mem_cons] at hclass
    simp only [TypeRef.shownAs, if_neg Bool.false_ne_true, hback.1,
      TypeArgument.allShownAs_allShownAs arguments hback.2 hclass.2]
  | ⟨name, nullable, arguments, resolved, typeParameter, some f⟩, hback, hclass => by
    rw [TypeRef.classNames] at hback
    rw [TypeRef.nodes, List.forall_mem_cons, List.forall_mem_append] at hclass
    simp only [TypeRef.shownAs, TypeRef.ofSignature, f.shownAs_shownAs hback hclass.2.2]

theorem TypeArgument.allShownAs_allShownAs : ∀ as : List TypeArgument,
    (∀ n ∈ TypeArgument.allClassNames as, back (form n) = whole n) →
      (∀ m ∈ TypeArgument.allNodes as, m.typeParameter = false) →
      TypeArgument.allShownAs back (TypeArgument.allShownAs form as)
        = TypeArgument.allShownAs whole as
  | [], _, _ => rfl
  | .star :: as, hback, hclass => by
    rw [TypeArgument.allClassNames] at hback
    rw [TypeArgument.allNodes] at hclass
    simp only [TypeArgument.allShownAs, TypeArgument.shownAs,
      TypeArgument.allShownAs_allShownAs as hback hclass]
  | .type t :: as, hback, hclass => by
    rw [TypeArgument.allClassNames, List.forall_mem_append] at hback
    rw [TypeArgument.allNodes, List.forall_mem_append] at hclass
    simp only [TypeArgument.allShownAs, TypeArgument.shownAs,
      t.shownAs_shownAs hback.1 hclass.1,
      TypeArgument.allShownAs_allShownAs as hback.2 hclass.2]

theorem FunctionType.shownAs_shownAs : ∀ f : FunctionType,
    (∀ n ∈ f.classNames, back (form n) = whole n) → (∀ m ∈ f.nodes, m.typeParameter = false) →
      (f.shownAs form).shownAs back = f.shownAs whole
  | ⟨receiver, parameters, returnType, suspending⟩, hback, hclass => by
    rw [FunctionType.classNames, List.forall_mem_append, List.forall_mem_append] at hback
    rw [FunctionType.nodes, List.forall_mem_append, List.forall_mem_append] at hclass
    simp only [FunctionType.shownAs,
      TypeRef.optionShownAs_optionShownAs receiver hback.1.1 hclass.1.1,
      TypeRef.allShownAs_allShownAs parameters hback.1.2 hclass.1.2,
      returnType.shownAs_shownAs hback.2 hclass.2]

theorem TypeRef.optionShownAs_optionShownAs : ∀ t : Option TypeRef,
    (∀ n ∈ TypeRef.optionClassNames t, back (form n) = whole n) →
      (∀ m ∈ TypeRef.optionNodes t, m.typeParameter = false) →
      TypeRef.optionShownAs back (TypeRef.optionShownAs form t) = TypeRef.optionShownAs whole t
  | none, _, _ => rfl
  | some t, hback, hclass => by
    rw [TypeRef.optionClassNames] at hback
    rw [TypeRef.optionNodes] at hclass
    simp only [TypeRef.optionShownAs, t.shownAs_shownAs hback hclass]

theorem TypeRef.allShownAs_allShownAs : ∀ ts : List TypeRef,
    (∀ n ∈ TypeRef.allClassNames ts, back (form n) = whole n) →
      (∀ m ∈ TypeRef.allNodes ts, m.typeParameter = false) →
      TypeRef.allShownAs back (TypeRef.allShownAs form ts) = TypeRef.allShownAs whole ts
  | [], _, _ => rfl
  | t :: ts, hback, hclass => by
    rw [TypeRef.allClassNames, List.forall_mem_append] at hback
    rw [TypeRef.allNodes, List.forall_mem_append] at hclass
    simp only [TypeRef.allShownAs, t.shownAs_shownAs hback.1 hclass.1,
      TypeRef.allShownAs_allShownAs ts hback.2 hclass.2]
end

variable {t : TypeRef} (hclass : ∀ m ∈ t.nodes, m.typeParameter = false)

include hclass

theorem TypeRef.shown_shownAs : (t.shownAs form).shown = t.shownAs form :=
  t.shownAs_shownAs (fun _ _ => rfl) hclass

theorem TypeRef.shownAs_shown : t.shown.shownAs form = t.shownAs form :=
  t.shownAs_shownAs (fun _ _ => rfl) hclass

theorem TypeRef.shownAs_back (hback : ∀ n ∈ t.classNames, back (form n) = n) :
    (t.shownAs form).shownAs back = t.shown :=
  t.shownAs_shownAs hback hclass

end Forms

/-! ### Names that are written -/

theorem isName_written {name : String} (h : isName name = true) (names : ImportTable) :
    isName ((writeName name).run names).1 = true := by
  have hsimple : ∀ package simple, splitLast name = some (package, simple) →
      isName simple = true := by
    intro package simple hsplit
    obtain ⟨rfl, -⟩ := splitLast_eq_some hsplit
    obtain ⟨c, hc, hdot⟩ := isName_getLast? h
    have hmarks := isName_marks h
    rw [String.toList_append, String.toList_append] at hc hmarks
    rw [isName, Bool.and_eq_true, List.all_eq_true, Option.any_eq_true]
    refine ⟨fun d hd => ?_, c, ?_, bne_iff_ne.mpr hdot⟩
    · rw [hmarks d (List.mem_append_right _ hd)]
      rfl
    · cases hnil : simple.toList with
      | nil =>
        rw [hnil, List.append_nil] at hc
        simp at hc
        exact (hdot hc.symm).elim
      | cons d ds =>
        rw [hnil, List.getLast?_append_cons] at hc
        exact hc
  rw [run_writeName]
  cases hsplit : splitLast name with
  | none => exact h
  | some split =>
    obtain ⟨package, simple⟩ := split
    cases hlookup : names.owners.lookup simple with
    | none =>
      simp only [hlookup]
      exact hsimple package simple hsplit
    | some owner =>
      simp only [hlookup]
      split
      · exact hsimple package simple hsplit
      · exact h

namespace ImportTable

section Answers

variable {package : String} {requests : List NameRequest} {name text : String}

/-- The class that a text stands for in a file. -/
def owning (names : ImportTable) (text : String) : String :=
  if text.toList.contains '.' then text else (names.owners.lookup text).getD text

/-- A text with a dot is the name itself. -/
theorem Answered.long (h : Answered package requests name text) (htext : '.' ∈ text.toList) :
    text = name := by
  have hfinal := congrArg Prod.fst h.final
  rw [run_writeName] at hfinal
  cases hsplit : splitLast name with
  | none =>
    rw [hsplit] at hfinal
    exact hfinal.symm
  | some split =>
    obtain ⟨outer, simple⟩ := split
    have hshort := (splitLast_eq_some hsplit).2
    rw [hsplit] at hfinal
    cases hlookup : (afterRequests package requests).owners.lookup simple with
    | none =>
      simp only [hlookup] at hfinal
      exact (hshort (hfinal ▸ htext)).elim
    | some owner =>
      simp only [hlookup] at hfinal
      split at hfinal
      · exact (hshort (hfinal ▸ htext)).elim
      · exact hfinal.symm

theorem Answered.owning_eq (h : Answered package requests name text) (hname : '.' ∈ name.toList) :
    (afterRequests package requests).owning text = name := by
  rw [owning]
  by_cases htext : '.' ∈ text.toList
  · rw [if_pos (by simpa using htext)]
    exact h.long htext
  · rw [if_neg (by simpa using htext), h.owner hname htext]
    rfl

theorem exists_answered {t : TypeRef} (ht : .type t ∈ requests) {name : String}
    (hname : name ∈ t.classNames) : ∃ text, Answered package requests name text := by
  have hmem : Lookup.name name ∈ requests.flatMap NameRequest.lookups :=
    List.mem_flatMap.mpr ⟨.type t, ht, List.mem_map_of_mem hname⟩
  obtain ⟨before, after, hlookups⟩ := List.append_of_mem hmem
  exact ⟨_, before, after, hlookups, rfl⟩

end Answers

/-- A class with a dotted name, or a function type, that can be read back. -/
structure NamesClass (t : TypeRef) : Prop where
  legible : Legible t
  dotted : t.function = none → '.' ∈ t.qualifiedName.toList
  isClass : t.typeParameter = false

instance (t : TypeRef) : Decidable (NamesClass t) :=
  decidable_of_iff
    (Legible t ∧ (t.function = none → '.' ∈ t.qualifiedName.toList) ∧ t.typeParameter = false)
    ⟨fun h => ⟨h.1, h.2.1, h.2.2⟩, fun h => ⟨h.legible, h.dotted, h.isClass⟩⟩

/-- The text that a file writes for a name. -/
def textOf (names : ImportTable) (name : String) : String :=
  ((writeName name).run names).1

/-- A type that was asked for is still written as it was, under the names of the file. -/
theorem run_writeType_asked (package : String) (before after : List NameRequest) (t : TypeRef) :
    ((writeType t).run (afterRequests package before)).1
      = (t.shownAs (afterRequests package (before ++ .type t :: after)).textOf).display := by
  have hlater : ((writeType t).run (afterRequests package before)).2.Extends
      (afterRequests package (before ++ .type t :: after)) := by
    have hextends := afterRequests_extends package (before ++ [.type t]) after
    rw [List.append_assoc, List.singleton_append] at hextends
    rwa [afterRequests, List.foldl_append] at hextends
  -- a later table writes the type alike, and there every class is already known
  have hstable := (writeType_stable t).holds (afterRequests package before) _ hlater
  rw [run_writeType t fun n hn => ?_] at hstable
  · exact (Prod.mk.inj hstable).1.symm
  · have hasked : .type t ∈ before ++ .type t :: after :=
      List.mem_append_right _ List.mem_cons_self
    obtain ⟨text, htext⟩ := exists_answered hasked hn
    rw [textOf, htext.final]

section Types

variable {package : String} {requests : List NameRequest} {t : TypeRef}

theorem owning_textOf (hasked : .type t ∈ requests) (ht : ∀ m ∈ t.nodes, NamesClass m) :
    ∀ n ∈ t.classNames,
      (afterRequests package requests).owning ((afterRequests package requests).textOf n) = n := by
  intro n hn
  obtain ⟨text, htext⟩ := exists_answered hasked hn
  obtain ⟨m, hm, hplain, rfl⟩ := t.exists_of_mem_classNames n hn
  rw [textOf, htext.final]
  exact htext.owning_eq ((ht m hm).dotted hplain)

theorem readable_shownAs (names : ImportTable) (ht : ∀ m ∈ t.nodes, NamesClass m) :
    Readable (t.shownAs names.textOf) := by
  intro m hm
  obtain ⟨n, hn, rfl⟩ := TypeRef.nodes_shownAs names.textOf t m hm.mem_nodes
  have hlegible := (ht n hn).legible
  refine ⟨fun hplain => ?_, (closesReceiver_shownAs _ n).trans hlegible.receiver⟩
  obtain ⟨name, nullable, arguments, resolved, typeParameter, function⟩ := n
  cases function with
  | none =>
    have hname := hlegible.name rfl
    cases typeParameter with
    | true => exact hname
    | false => exact isName_written hname names
  | some f => cases hplain

theorem isClass_nodes (ht : ∀ m ∈ t.nodes, NamesClass m) :
    ∀ m ∈ t.nodes, m.typeParameter = false :=
  fun m hm => (ht m hm).isClass

end Types

/-- A type and one that is written later in the same file have the same text exactly if they
    are the same. -/
theorem written_alike_iff (package : String) (before between : List NameRequest) {t u : TypeRef}
    (ht : ∀ m ∈ t.nodes, NamesClass m) (hu : ∀ m ∈ u.nodes, NamesClass m) :
    ((writeType t).run (afterRequests package before)).1
        = ((writeType u).run (afterRequests package (before ++ .type t :: between))).1
      ↔ t.Same u := by
  let requests := before ++ .type t :: (between ++ [.type u])
  let names := afterRequests package requests
  have hasked : .type t ∈ requests := by simp [requests]
  have hasked' : .type u ∈ requests := by simp [requests]
  have htext := run_writeType_asked package before (between ++ [.type u]) t
  have htext' := run_writeType_asked package (before ++ .type t :: between) [] u
  rw [List.append_assoc, List.cons_append] at htext'
  rw [htext, htext', t.same_iff_shown u]
  have hclass := isClass_nodes ht
  have hclass' := isClass_nodes hu
  constructor
  · intro hdisplay
    -- both are read back to the same type under the names of the file, whose owners lead
    -- back to the classes
    have hshown := shown_of_display (readable_shownAs names ht) (readable_shownAs names hu) hdisplay
    rw [TypeRef.shown_shownAs hclass, TypeRef.shown_shownAs hclass'] at hshown
    rw [← TypeRef.shownAs_back hclass (owning_textOf hasked ht), hshown,
      TypeRef.shownAs_back hclass' (owning_textOf hasked' hu)]
  · intro hshown
    rw [← TypeRef.shownAs_shown hclass, hshown, TypeRef.shownAs_shown hclass']

/-- Lists of two classes with one simple name, of which the file knows the first already. -/
theorem written_alike_iff_of_clash :
    let listOf (name : String) : TypeRef :=
      ⟨"kotlin.collections.List", true, [.type (.named name)], true, false, none⟩
    let before : List NameRequest := [.name "io.ktor.http.Parameters"]
    (∀ m ∈ (listOf "com.other.Parameters").nodes, NamesClass m)
      ∧ (∀ m ∈ (listOf "io.ktor.http.Parameters").nodes, NamesClass m)
      ∧ ((writeType (listOf "com.other.Parameters")).run (afterRequests "demo" before)).1
        = "List<com.other.Parameters>?"
      ∧ (((writeType (listOf "com.other.Parameters")).run (afterRequests "demo" before)).1
          = ((writeType (listOf "io.ktor.http.Parameters")).run
              (afterRequests "demo" (before ++ [.type (listOf "com.other.Parameters")]))).1
        ↔ (listOf "com.other.Parameters").Same (listOf "io.ktor.http.Parameters")) := by
  intro listOf before
  have hother : ∀ m ∈ (listOf "com.other.Parameters").nodes, NamesClass m := by decide
  have hfirst : ∀ m ∈ (listOf "io.ktor.http.Parameters").nodes, NamesClass m := by decide
  exact ⟨hother, hfirst, by decide +kernel, written_alike_iff "demo" before [] hother hfirst⟩

end ImportTable

end ClientGen
