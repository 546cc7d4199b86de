/-
  ClientGen/Proofs/Declaration/Arrows.lean
  ========================================
  **Arrows behind a function type.**

  A display does not show where a function type ends unless the type is nullable.  So an
  arrow that is written behind one is read as a part of its result: `attach` puts it there,
  and `split` cuts a type at the first arrow that can have been put there.  Neither is seen
  in the display (`display_attach`, `display_split`).  What cannot be cut itself is found
  again behind the arrow (`split_attach`).
-/
import ClientGen.Proofs.Declaration.Sameness

namespace ClientGen.Display

open ClientGen.Text

/-- A type and the arrow written behind it. -/
structure Arrow where
  receiver : TypeRef
  parameters : List TypeRef
  returnType : TypeRef

def Arrow.type (a : Arrow) : TypeRef :=
  .ofSignature false ⟨some a.receiver, a.parameters, a.returnType, false⟩

def Arrow.shownAs (form : String → String) (a : Arrow) : Arrow :=
  ⟨a.receiver.shownAs form, TypeRef.allShownAs form a.parameters, a.returnType.shownAs form⟩

def Arrow.behind (t : TypeRef) (receiver : Option TypeRef) (parameters : List TypeRef)
    (suspending : Bool) (a : Arrow) : Arrow :=
  { a with
    receiver := { t with function := some ⟨receiver, parameters, a.receiver, suspending⟩ } }

/-- Cut at the first arrow with a receiver.  The word in front of a suspending function is
    a part of it, so it has to stay together up to its own arrow. -/
def split : TypeRef → Option Arrow
  | ⟨name, false, as, resolved, typeParameter,
      some ⟨receiver, parameters, returnType, suspending⟩⟩ =>
    match receiver, suspending with
    | some r, false => some ⟨r, parameters, returnType⟩
    | receiver, suspending =>
      (split returnType).map
        (Arrow.behind ⟨name, false, as, resolved, typeParameter, none⟩ receiver parameters
          suspending)
  | _ => none

/-- The arrow put behind the type, inside the result of a function type. -/
def attach (parameters : List TypeRef) (returnType : TypeRef) : TypeRef → TypeRef
  | ⟨name, false, as, resolved, typeParameter, some ⟨receiver, ps, result, suspending⟩⟩ =>
    ⟨name, false, as, resolved, typeParameter,
      some ⟨receiver, ps, attach parameters returnType result, suspending⟩⟩
  | t => Arrow.type ⟨t, parameters, returnType⟩

/-! ### Displays -/

theorem displayFunction_append (suspending : Bool) (receiver : Option String)
    (parameters : List String) (front back : String) :
    displayFunction false suspending receiver parameters (front ++ back)
      = displayFunction false suspending receiver parameters front ++ back := by
  rw [← String.toList_inj]
  simp [displayFunction]

theorem Arrow.display_type (a : Arrow) :
    a.type.display
      = a.receiver.display
        ++ (".(" ++ join ", " (TypeRef.displays a.parameters) ++ ") -> "
          ++ a.returnType.display) := by
  rw [← String.toList_inj]
  simp [Arrow.type, TypeRef.ofSignature, TypeRef.display, FunctionType.displayAs,
    TypeRef.displayOption, displayFunction]

theorem display_attach (parameters : List TypeRef) (returnType t : TypeRef) :
    (attach parameters returnType t).display = (Arrow.type ⟨t, parameters, returnType⟩).display := by
  fun_induction attach parameters returnType t with
  | case1 name as resolved typeParameter receiver ps result suspending ih =>
    rw [Arrow.display_type] at ih ⊢
    simp only [TypeRef.display, FunctionType.displayAs]
    rw [ih, displayFunction_append]
  | case2 t => rfl

theorem display_split {t : TypeRef} {a : Arrow} (h : split t = some a) :
    t.display = a.type.display := by
  fun_induction split t generalizing a with
  | case1 name as resolved typeParameter parameters returnType r =>
    cases h
    rfl
  | case2 name as resolved typeParameter parameters returnType receiver suspending hclosed ih =>
    obtain ⟨b, hb, rfl⟩ := Option.map_eq_some_iff.mp h
    have hresult := ih hb
    rw [Arrow.display_type] at hresult ⊢
    simp only [Arrow.behind, TypeRef.display, FunctionType.displayAs]
    rw [hresult, displayFunction_append]
  | case3 => cases h

/-! ### Cutting what was put together -/

theorem split_result {receiver : Option TypeRef} {suspending : Bool}
    (hclosed : ∀ r, receiver = some r → suspending = false → False) (name : String)
    (as : List TypeArgument) (resolved typeParameter : Bool) (parameters : List TypeRef)
    (returnType : TypeRef) :
    split ⟨name, false, as, resolved, typeParameter,
        some ⟨receiver, parameters, returnType, suspending⟩⟩
      = (split returnType).map
          (Arrow.behind ⟨name, false, as, resolved, typeParameter, none⟩ receiver parameters
            suspending) := by
  cases receiver with
  | none => rfl
  | some r =>
    cases suspending with
    | true => rfl
    | false => exact (hclosed r rfl rfl).elim

/-- Where nothing could be cut before, the first arrow is the one put behind. -/
theorem split_attach {t : TypeRef} (h : split t = none) (parameters : List TypeRef)
    (returnType : TypeRef) :
    split (attach parameters returnType t) = some ⟨t, parameters, returnType⟩ := by
  fun_induction attach parameters returnType t with
  | case1 name as resolved typeParameter receiver ps result suspending ih =>
    have hclosed : ∀ r, receiver = some r → suspending = false → False := by
      rintro r rfl rfl
      cases h
    rw [split_result hclosed] at h ⊢
    rw [ih (Option.map_eq_none_iff.mp h)]
    rfl
  | case2 t => rfl

theorem split_shownAs (form : String → String) (t : TypeRef) :
    split (t.shownAs form) = (split t).map (Arrow.shownAs form) := by
  fun_induction split t with
  | case1 name as resolved typeParameter parameters returnType r => rfl
  | case2 name as resolved typeParameter parameters returnType receiver suspending hclosed ih =>
    have hclosed' : ∀ r, TypeRef.optionShownAs form receiver = some r →
        suspending = false → False := by
      cases receiver with
      | none => rintro r ⟨⟩
      | some r => exact fun _ _ => hclosed r rfl
    rw [TypeRef.shownAs, TypeRef.ofSignature, FunctionType.shownAs, split_result hclosed', ih,
      Option.map_map, Option.map_map]
    rfl
  | case3 t hother =>
    obtain ⟨name, nullable, as, resolved, typeParameter, function⟩ := t
    cases function with
    | none =>
      cases nullable with
      | true => rfl
      | false => rfl
    | some f =>
      obtain ⟨receiver, parameters, returnType, suspending⟩ := f
      cases nullable with
      | true => rfl
      | false => exact (hother name as resolved typeParameter _ _ _ _ rfl).elim

theorem forall_names_split {P : String → Prop} {t : TypeRef} {a : Arrow} (h : split t = some a)
    (ht : ∀ n ∈ t.nodes, P n.qualifiedName) :
    (∀ n ∈ a.receiver.nodes, P n.qualifiedName)
      ∧ (∀ n ∈ TypeRef.allNodes a.parameters, P n.qualifiedName)
      ∧ ∀ n ∈ a.returnType.nodes, P n.qualifiedName := by
  fun_induction split t generalizing a with
  | case1 name as resolved typeParameter parameters returnType r =>
    cases h
    exact (TypeRef.forall_nodes_signature.mp ht).2.2
  | case2 name as resolved typeParameter parameters returnType receiver suspending hclosed ih =>
    obtain ⟨b, hb, rfl⟩ := Option.map_eq_some_iff.mp h
    obtain ⟨hself, has, hreceiver, hparameters, hresult⟩ := TypeRef.forall_nodes_signature.mp ht
    obtain ⟨hb, hbehind⟩ := ih hb hresult
    exact ⟨TypeRef.forall_nodes_signature.mpr ⟨hself, has, hreceiver, hparameters, hb⟩, hbehind⟩
  | case3 => cases h

end ClientGen.Display
