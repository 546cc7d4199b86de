/-
  ClientGen/Proofs/Imports/Growth.lean
  ====================================
  **The names of a file only grow.**

  A simple name keeps the owner that it once got, and no import is lost (`Extends`).
  `Lasts w P` says that what `w` writes satisfies `P` in the finished file, whatever is
  written behind it.  The written form of a type lasts: with the names of the finished
  file the type is written in the same way, and nothing more is imported (`Rendered`).
-/
import ClientGen.Proofs.Ascending
import ClientGen.Proofs.Imports

namespace ClientGen

open ClientGen.Text

/-! ### Later names -/

namespace ImportTable

/-- The second table is that of the same file, later on. -/
structure Extends (t t' : ImportTable) : Prop where
  package : t'.package = t.package
  owners : ∀ simple owner,
    t.owners.lookup simple = some owner → t'.owners.lookup simple = some owner
  imports : ∀ name ∈ t.imports, name ∈ t'.imports
  verbatim : ∀ text ∈ t.verbatim, text ∈ t'.verbatim

theorem Extends.refl (t : ImportTable) : t.Extends t :=
  ⟨rfl, fun _ _ h => h, fun _ h => h, fun _ h => h⟩

theorem Extends.trans {t t' t'' : ImportTable} (h : t.Extends t') (h' : t'.Extends t'') :
    t.Extends t'' where
  package := h'.package.trans h.package
  owners := fun simple owner howner => h'.owners simple owner (h.owners simple owner howner)
  imports := fun name hname => h'.imports name (h.imports name hname)
  verbatim := fun text htext => h'.verbatim text (h.verbatim text htext)

theorem importName_extends (t : ImportTable) (package name : String) :
    t.Extends (t.importName package name) := by
  unfold importName
  split
  · exact .refl t
  · exact ⟨rfl, fun _ _ h => h, fun _ h => Ascending.mem_putName.mpr (.inr h), fun _ h => h⟩

/-- A simple name without an owner may get one. -/
theorem extends_owner {t : ImportTable} {simple : String} (hfree : t.owners.lookup simple = none)
    (name : String) : t.Extends { t with owners := (simple, name) :: t.owners } where
  package := rfl
  owners := by
    intro other owner howner
    by_cases hsame : other = simple
    · rw [hsame, hfree] at howner
      cases howner
    · rwa [List.lookup_cons, beq_eq_false_iff_ne.mpr hsame]
  imports := fun _ h => h
  verbatim := fun _ h => h

end ImportTable

open ImportTable (Extends)

/-- A class without a package is written as it is.  Any other one has its simple name when that is
    free or its own, and else all of its name. -/
theorem run_writeName (name : String) (t : ImportTable) :
    (writeName name).run t = match splitLast name with
      | none => (name, t)
      | some (package, simple) =>
        match t.owners.lookup simple with
        | some owner => (if owner = name then simple else name, t)
        | none =>
          (simple, ImportTable.importName { t with owners := (simple, name) :: t.owners }
            package name) := by
  unfold writeName
  cases splitLast name with
  | none => rfl
  | some split =>
    obtain ⟨package, simple⟩ := split
    simp only [StateT.run_bind, StateT.run_get, pure_bind]
    cases t.owners.lookup simple with
    | none => rfl
    | some owner => rfl

/-! ### Writing adds names -/

/-- Writing adds names and changes none. -/
def Grows {α : Type} (w : NameM α) : Prop :=
  ∀ names : ImportTable, names.Extends (w.run names).2

namespace Grows

variable {α β : Type} {w : NameM α}

theorem pure (a : α) : Grows (pure a : NameM α) :=
  fun names => .refl names

theorem bind {k : α → NameM β} (hw : Grows w) (hk : ∀ a, Grows (k a)) : Grows (w >>= k) :=
  fun names => (hw names).trans (hk _ _)

/-- What is made of something written needs no further names. -/
theorem map (hw : Grows w) (g : α → β) : Grows (w >>= fun a => Pure.pure (g a)) :=
  hw.bind fun a => .pure (g a)

theorem mapM {g : α → NameM β} (xs : List α) (h : ∀ x, Grows (g x)) : Grows (xs.mapM g) := by
  induction xs with
  | nil => exact pure []
  | cons x xs ih =>
    rw [List.mapM_cons]
    exact (h x).bind fun y => ih.map _

theorem ite {p : Prop} [Decidable p] {v : NameM α} (hw : Grows w) (hv : Grows v) :
    Grows (if p then w else v) := by
  split
  · exact hw
  · exact hv

theorem name (name : String) : Grows (writeName name) := by
  intro names
  rw [run_writeName]
  cases hsplit : splitLast name with
  | none => exact .refl names
  | some split =>
    cases hlookup : names.owners.lookup split.2 with
    | some owner =>
      simp only [hlookup]
      exact .refl names
    | none =>
      simp only [hlookup]
      exact (ImportTable.extends_owner hlookup name).trans
        (ImportTable.importName_extends _ split.1 name)

theorem member (name : String) : Grows (writeMember name) := by
  intro names
  unfold writeMember
  cases splitLast name with
  | none => exact .refl names
  | some split => exact ImportTable.importName_extends names split.1 name

end Grows

/-! ### What lasts -/

/-- What is written satisfies `P` in the finished file. -/
structure Lasts {α : Type} (w : NameM α) (P : ImportTable → α → Prop) : Prop where
  grows : Grows w
  holds : ∀ names final, (w.run names).2.Extends final → P final (w.run names).1

namespace Lasts

variable {α β : Type} {w : NameM α} {P : ImportTable → α → Prop}

theorem pure {a : α} (h : ∀ final, P final a) : Lasts (pure a) P :=
  ⟨.pure a, fun _ final _ => h final⟩

/-- Names that are added behind `w` do not change what `w` has written. -/
theorem bind {k : α → NameM β} {Q : ImportTable → β → Prop} (hw : Lasts w P)
    (hk : ∀ a, Lasts (k a) fun final b => P final a → Q final b) : Lasts (w >>= k) Q where
  grows := hw.grows.bind fun a => (hk a).grows
  holds := by
    intro names final hfinal
    have hbetween := ((hk (w.run names).1).grows (w.run names).2).trans hfinal
    exact (hk (w.run names).1).holds (w.run names).2 final hfinal
      (hw.holds names final hbetween)

theorem of_grows (hw : Grows w) : Lasts w fun _ _ => True :=
  ⟨hw, fun _ _ _ => True.intro⟩

theorem imp {Q : ImportTable → α → Prop} (hw : Lasts w P) (h : ∀ final a, P final a → Q final a) :
    Lasts w Q :=
  ⟨hw.grows, fun names final hfinal => h _ _ (hw.holds names final hfinal)⟩

theorem mapM {g : α → NameM β} {R : ImportTable → α → β → Prop} {xs : List α}
    (h : ∀ x ∈ xs, Lasts (g x) fun final => R final x) :
    Lasts (xs.mapM g) fun final => List.Forall₂ (R final) xs := by
  induction xs with
  | nil => exact pure fun _ => .nil
  | cons x xs ih =>
    rw [List.mapM_cons]
    refine bind (h x List.mem_cons_self) fun y => ?_
    refine bind (ih fun x hx => h x (List.mem_cons_of_mem _ hx)) fun ys => ?_
    exact pure fun final hrest hfirst => .cons hfirst hrest

end Lasts

/-! ### Types -/

/-- The finished file writes once more what was written, and imports nothing more for it. -/
def Stable {α : Type} (w : NameM α) : Prop :=
  Lasts w fun final a => w.run final = (a, final)

namespace Stable

variable {α β : Type} {w : NameM α}

theorem pure (a : α) : Stable (pure a : NameM α) :=
  Lasts.pure fun _ => rfl

theorem bind {k : α → NameM β} (hw : Stable w) (hk : ∀ a, Stable (k a)) : Stable (w >>= k) := by
  refine Lasts.bind hw fun a => ?_
  refine (hk a).imp fun final b hb ha => ?_
  have hrun : (w >>= k).run final = (k (w.run final).1).run (w.run final).2 := rfl
  rw [hrun, ha]
  exact hb

theorem map (hw : Stable w) (g : α → β) : Stable (w >>= fun a => Pure.pure (g a)) :=
  hw.bind fun a => .pure (g a)

theorem mapM {g : α → NameM β} (xs : List α) (h : ∀ x, Stable (g x)) : Stable (xs.mapM g) := by
  induction xs with
  | nil => exact pure []
  | cons x xs ih =>
    rw [List.mapM_cons]
    exact (h x).bind fun y => ih.map _

theorem ite {p : Prop} [Decidable p] {v : NameM α} (hw : Stable w) (hv : Stable v) :
    Stable (if p then w else v) := by
  split
  · exact hw
  · exact hv

/-- A simple name keeps its owner, the first name that was written by it. -/
theorem name (name : String) : Stable (writeName name) where
  grows := .name name
  holds := by
    intro names final hfinal
    rw [run_writeName] at hfinal ⊢
    rw [run_writeName]
    cases hsplit : splitLast name with
    | none => rfl
    | some split =>
      simp only [hsplit] at hfinal ⊢
      cases hlookup : names.owners.lookup split.2 with
      | some owner =>
        simp only [hlookup] at hfinal ⊢
        rw [hfinal.owners _ _ hlookup]
      | none =>
        simp only [hlookup] at hfinal ⊢
        have howner : final.owners.lookup split.2 = some name := by
          apply hfinal.owners
          apply (ImportTable.importName_extends _ split.1 name).owners
          simp
        rw [howner]
        simp

end Stable

mutual
theorem writeType_stable : ∀ t : TypeRef, Stable (writeType t)
  | ⟨name, nullable, arguments, resolved, typeParameter, some f⟩ => by
    rw [writeType]
    exact writeFunctionType_stable nullable f
  | ⟨name, nullable, arguments, resolved, typeParameter, none⟩ => by
    rw [writeType]
    have hrest : ∀ written, Stable (writeArguments arguments >>= fun arguments =>
        pure (displayPlain written nullable arguments)) :=
      fun written => (writeArguments_stable arguments).map _
    split
    · exact (Stable.pure name).bind hrest
    · exact (Stable.name name).bind hrest

theorem writeArguments_stable : ∀ as : List TypeArgument, Stable (writeArguments as)
  | [] => by
    rw [writeArguments]
    exact .pure []
  | .star :: as => by
    rw [writeArguments]
    exact (writeArguments_stable as).map _
  | .type t :: as => by
    rw [writeArguments]
    exact (writeType_stable t).bind fun written => (writeArguments_stable as).map _

theorem writeFunctionType_stable (nullable : Bool) :
    ∀ f : FunctionType, Stable (writeFunctionType nullable f)
  | ⟨receiver, parameters, returnType, suspending⟩ => by
    rw [writeFunctionType]
    refine (writeOptionalType_stable receiver).bind fun receiver => ?_
    refine (writeTypes_stable parameters).bind fun parameters => ?_
    exact (writeType_stable returnType).map _

theorem writeOptionalType_stable : ∀ t : Option TypeRef, Stable (writeOptionalType t)
  | none => by
    rw [writeOptionalType]
    exact .pure none
  | some t => by
    rw [writeOptionalType]
    exact (writeType_stable t).map _

theorem writeTypes_stable : ∀ ts : List TypeRef, Stable (writeTypes ts)
  | [] => by
    rw [writeTypes]
    exact .pure []
  | t :: ts => by
    rw [writeTypes]
    exact (writeType_stable t).bind fun written => (writeTypes_stable ts).map _
end

/-- The text is the written form of the type in a finished file. -/
def Rendered (final : ImportTable) (t : TypeRef) (text : String) : Prop :=
  (writeType t).run final = (text, final)

theorem writeType_rendered (t : TypeRef) : Lasts (writeType t) fun final => Rendered final t :=
  writeType_stable t

theorem Grows.type (t : TypeRef) : Grows (writeType t) :=
  (writeType_stable t).grows

end ClientGen
