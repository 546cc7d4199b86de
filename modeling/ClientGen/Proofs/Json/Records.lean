/-
  ClientGen/Proofs/Json/Records.lean
  ==================================
  **Reading what was written as a record.**

  `Reads f v a` says that the reader `f` takes the value `v` for `a` wherever `v` stands.
  A record written as an object with each field once hands every field its own value
  (`slots?_obj`), so a reader of records needs one such fact for each field.
-/
import ClientGen.Json.Value
import Mathlib.Data.List.Nodup

namespace ClientGen.Json

variable {α β : Type} {j : Json}

/-! ### Members of an object -/

/-- The members that an object hands out are those that were written. -/
theorem exists_members (ms : List (String × Json)) :
    ∃ parts : List (String × Part (Json.obj ms)),
      (Json.obj ms).members? = some parts ∧ parts.map (fun m => (m.1, m.2.1)) = ms := by
  refine ⟨_, rfl, ?_⟩
  rw [List.map_map]
  exact List.attach_map_subtype_val ms

theorem lookup_parts (parts : List (String × Part j)) (name : String) :
    (parts.lookup name).map Subtype.val
      = (parts.map fun m => (m.1, m.2.1)).lookup name := by
  induction parts with
  | nil => rfl
  | cons m parts ih =>
    rw [List.map_cons, List.lookup_cons, List.lookup_cons]
    cases name == m.1 with
    | true => rfl
    | false => exact ih

/-! ### Slots of an object -/

def slot (j : Json) (name : String) : Slot j :=
  (j.members?.getD []).lookup name

/-- An object that gives no key twice has a slot for every field. -/
theorem slots?_obj {ms : List (String × Json)} (hkeys : (ms.map Prod.fst).Nodup)
    (names : List String) :
    (Json.obj ms).slots? names = some (names.map (Json.obj ms).slot) := by
  obtain ⟨parts, hparts, hms⟩ := exists_members ms
  have honce : ∀ name, (parts.filter fun m => m.1 == name).length ≤ 1 := by
    intro name
    have hcount := List.nodup_iff_count_le_one.mp hkeys name
    rw [← hms, List.map_map, List.count, List.countP_map, List.countP_eq_length_filter] at hcount
    exact hcount
  unfold slots? slot
  simp only [hparts, Option.getD_some]
  rw [if_pos (by simpa [List.all_eq_true] using fun name _ => honce name)]

theorem objectSlots?_obj {ms : List (String × Json)} (hkeys : (ms.map Prod.fst).Nodup)
    (names : List String) :
    (Json.obj ms).objectSlots? names = some (names.map (Json.obj ms).slot) :=
  slots?_obj hkeys names

theorem slot_eq_some {ms : List (String × Json)} {name : String} {v : Json}
    (h : ms.lookup name = some v) :
    ∃ hlt, (Json.obj ms).slot name = some ⟨v, hlt⟩ := by
  obtain ⟨parts, hparts, hms⟩ := exists_members ms
  have hvalue : (parts.lookup name).map Subtype.val = some v := by
    rw [lookup_parts, hms, h]
  obtain ⟨part, hpart, rfl⟩ := Option.map_eq_some_iff.mp hvalue
  refine ⟨part.2, ?_⟩
  rw [slot, hparts]
  exact hpart

theorem slot_eq_none {ms : List (String × Json)} {name : String} (h : ms.lookup name = none) :
    (Json.obj ms).slot name = none := by
  obtain ⟨parts, hparts, hms⟩ := exists_members ms
  have hvalue : (parts.lookup name).map Subtype.val = none := by
    rw [lookup_parts, hms, h]
  rw [slot, hparts]
  exact Option.map_eq_none_iff.mp hvalue

/-! ### Readers -/

/-- The reader takes the value for `a` wherever it stands. -/
def Reads (f : Part j → Option α) (v : Json) (a : α) : Prop :=
  ∀ hlt, f ⟨v, hlt⟩ = some a

/-- The reader takes the value for `o`, whose absence is written as null. -/
def ReadsOption (f : Part j → Option α) (v : Json) (o : Option α) : Prop :=
  match o with
  | none => v = .null
  | some a => v ≠ .null ∧ Reads f v a

section Fields

variable {ms : List (String × Json)} {name : String} {v : Json} {a : α}

theorem required_slot {f : Part (Json.obj ms) → Option α} (h : Reads f v a)
    (hv : ms.lookup name = some v) : ((Json.obj ms).slot name).required f = some a := by
  obtain ⟨hlt, hslot⟩ := slot_eq_some hv
  rw [hslot]
  exact h hlt

theorem orElse_slot {f : Part (Json.obj ms) → Option α} (h : Reads f v a) (default : α)
    (hv : ms.lookup name = some v) : ((Json.obj ms).slot name).orElse default f = some a := by
  obtain ⟨hlt, hslot⟩ := slot_eq_some hv
  rw [hslot]
  exact h hlt

theorem optional_slot {f : Part (Json.obj ms) → Option α} {o : Option α}
    (h : ReadsOption f v o) (hv : ms.lookup name = some v) :
    ((Json.obj ms).slot name).optional f = some o := by
  obtain ⟨hlt, hslot⟩ := slot_eq_some hv
  rw [hslot]
  cases o with
  | none =>
    have hnull : v = .null := h
    subst hnull
    rfl
  | some a =>
    obtain ⟨hvalue, hreads⟩ := h
    rw [Slot.optional, hreads hlt]
    · rfl
    · intro hlt' heq
      exact hvalue (congrArg Subtype.val heq)

theorem optional_slot_of_absent {f : Part (Json.obj ms) → Option α} (hv : ms.lookup name = none) :
    ((Json.obj ms).slot name).optional f = some none := by
  rw [slot_eq_none hv]
  rfl

theorem required_slot_of_absent {f : Part (Json.obj ms) → Option α} (hv : ms.lookup name = none) :
    ((Json.obj ms).slot name).required f = none := by
  rw [slot_eq_none hv]
  rfl

end Fields

/-! ### Arrays and maps -/

theorem mapM_eq_some {f : α → Option β} {xs : List α} {ys : List β}
    (h : List.Forall₂ (fun x y => f x = some y) xs ys) : xs.mapM f = some ys := by
  induction h with
  | nil => rfl
  | cons hfirst hrest ih =>
    rw [List.mapM_cons, hfirst, ih]
    rfl

theorem forall₂_attach {R : α → β → Prop} {xs : List α} {ys : List β}
    (h : List.Forall₂ R xs ys) : List.Forall₂ (fun x y => R x.1 y) xs.attach ys := by
  rw [← List.attach_map_subtype_val xs, List.forall₂_map_left_iff] at h
  exact h

/-- The items that an array hands out are those that were written. -/
theorem mapM_items {vs : List Json} {f : Part (Json.arr vs) → Option α} {as : List α}
    (h : List.Forall₂ (Reads f) vs as) :
    ∃ items, (Json.arr vs).items? = some items ∧ items.mapM f = some as := by
  refine ⟨_, rfl, mapM_eq_some ?_⟩
  rw [List.forall₂_map_left_iff]
  exact (forall₂_attach h).imp fun v a hreads => hreads _

/-- The members that an object hands out are read as a map, in their order. -/
theorem mapM_members {ms : List (String × Json)}
    {f : String × Part (Json.obj ms) → Option α} {as : List α}
    (h : List.Forall₂ (fun m a => Reads (fun v => f (m.1, v)) m.2 a) ms as) :
    ∃ members, (Json.obj ms).members? = some members ∧ members.mapM f = some as := by
  refine ⟨_, rfl, mapM_eq_some ?_⟩
  rw [List.forall₂_map_left_iff]
  exact (forall₂_attach h).imp fun m a hreads => hreads _

theorem Reads.each {f : Part j → Option α} {vs : List Json} {as : List α}
    (h : List.Forall₂ (Reads f) vs as) :
    Reads (fun v : Part j => v.each f) (.arr vs) as := by
  intro hlt
  obtain ⟨items, hitems, hmap⟩ :=
    mapM_items (f := fun w => f ⟨w.1, Nat.lt_trans w.2 hlt⟩)
      (h.imp fun v a hreads hlt' => hreads _)
  simp only [Part.each, hitems]
  exact hmap

/-- A list is read back when each of its items is. -/
theorem Reads.each_map {f : Part j → Option α} {write : α → Json} {as : List α}
    (h : ∀ a ∈ as, Reads f (write a) a) :
    Reads (fun v : Part j => v.each f) (.arr (as.map write)) as := by
  apply Reads.each
  rw [List.forall₂_map_left_iff, List.forall₂_same]
  exact h

end ClientGen.Json
