/-
  ClientGen/Proofs/Ascending.lean
  ===============================
  **Sets and maps as ascending lists.**

  Putting a name keeps the order strict, so a set holds every name once, and a list of
  names is as long as its set exactly when no name stands in it twice.  The names of a map
  are a set, putting an entry puts its name, and the last value of a name stays.
-/
import ClientGen.Ascending
import Mathlib.Data.List.Dedup
import Mathlib.Data.List.Induction
import Mathlib.Data.List.Perm.Basic

namespace ClientGen.Ascending

variable {name x : String} {names : List String}

/-- Names are in strictly ascending order. -/
def Strict (names : List String) : Prop :=
  names.Pairwise (· < ·)

theorem mem_putName : x ∈ putName name names ↔ x = name ∨ x ∈ names := by
  induction names with
  | nil => simp [putName]
  | cons n rest ih =>
    unfold putName
    by_cases hlt : name < n
    · rw [if_pos hlt, List.mem_cons]
    · rw [if_neg hlt]
      by_cases heq : name = n
      · rw [if_pos heq, heq, List.mem_cons, ← or_assoc, or_self]
      · rw [if_neg heq, List.mem_cons, ih, List.mem_cons]
        exact or_left_comm

theorem strict_putName (h : Strict names) : Strict (putName name names) := by
  induction names with
  | nil => exact List.pairwise_singleton _ _
  | cons n rest ih =>
    obtain ⟨hbelow, hrest⟩ := List.pairwise_cons.mp h
    unfold putName
    by_cases hlt : name < n
    · rw [if_pos hlt]
      refine List.pairwise_cons.mpr ⟨?_, h⟩
      intro x hx
      rcases List.mem_cons.mp hx with rfl | hx
      · exact hlt
      · exact String.lt_trans hlt (hbelow x hx)
    · rw [if_neg hlt]
      by_cases heq : name = n
      · rw [if_pos heq]
        exact h
      · rw [if_neg heq]
        refine List.pairwise_cons.mpr ⟨?_, ih hrest⟩
        intro x hx
        rcases mem_putName.mp hx with rfl | hx
        · -- Neither smaller nor equal, the name stands behind the head.
          apply Classical.byContradiction
          intro hnot
          exact heq (String.le_antisymm hnot hlt)
        · exact hbelow x hx

theorem foldl_putName (sorted : List String) (h : Strict sorted) :
    Strict (names.foldl (fun sorted n => putName n sorted) sorted)
      ∧ ∀ x, x ∈ names.foldl (fun sorted n => putName n sorted) sorted
        ↔ x ∈ names ∨ x ∈ sorted := by
  induction names generalizing sorted with
  | nil => exact ⟨h, fun x => by simp⟩
  | cons n rest ih =>
    obtain ⟨hstrict, hmem⟩ := ih (putName n sorted) (strict_putName h)
    refine ⟨hstrict, fun x => ?_⟩
    rw [List.foldl_cons, hmem x, mem_putName, List.mem_cons]
    exact or_left_comm.trans or_assoc.symm

@[simp] theorem mem_ofNames : x ∈ ofNames names ↔ x ∈ names := by
  rw [ofNames, (foldl_putName [] List.Pairwise.nil).2 x]
  simp

theorem strict_ofNames (names : List String) : Strict (ofNames names) :=
  (foldl_putName [] List.Pairwise.nil).1

theorem Strict.nodup (h : Strict names) : names.Nodup := by
  apply List.Pairwise.imp _ h
  intro x y hlt heq
  exact String.lt_irrefl x (heq ▸ hlt)

theorem nodup_ofNames (names : List String) : (ofNames names).Nodup :=
  (strict_ofNames names).nodup

/-- A list is as long as its set exactly when no name stands in it twice. -/
theorem length_ofNames : (ofNames names).length = names.length ↔ names.Nodup := by
  have hperm : (ofNames names).Perm names.dedup :=
    (List.perm_ext_iff_of_nodup (nodup_ofNames names) names.nodup_dedup).mpr fun x => by
      rw [mem_ofNames, List.mem_dedup]
  rw [hperm.length_eq]
  constructor
  · intro hlength
    rw [← (List.dedup_sublist names).eq_of_length hlength]
    exact names.nodup_dedup
  · intro hnodup
    rw [hnodup.dedup]

/-! ### Maps -/

section Maps

variable {α : Type} {value : α} {e : String × α} {entries : List (String × α)}

/-- The names of a map change as a set does. -/
theorem map_fst_put :
    (put name value entries).map Prod.fst = putName name (entries.map Prod.fst) := by
  induction entries with
  | nil => rfl
  | cons entry rest ih =>
    obtain ⟨n, v⟩ := entry
    simp only [put, List.map_cons, putName]
    by_cases hlt : name < n
    · simp only [if_pos hlt, List.map_cons]
    · by_cases heq : name = n
      · simp only [if_neg hlt, if_pos heq, List.map_cons]
        rw [heq]
      · simp only [if_neg hlt, if_neg heq, List.map_cons, ih]

theorem mem_put (h : e ∈ put name value entries) : e = (name, value) ∨ e ∈ entries := by
  induction entries with
  | nil => exact .inl (List.mem_singleton.mp h)
  | cons entry rest ih =>
    obtain ⟨n, v⟩ := entry
    unfold put at h
    by_cases hlt : name < n
    · rw [if_pos hlt] at h
      exact List.mem_cons.mp h
    · rw [if_neg hlt] at h
      by_cases heq : name = n
      · rw [if_pos heq] at h
        rcases List.mem_cons.mp h with hnew | hold
        · exact .inl hnew
        · exact .inr (List.mem_cons_of_mem _ hold)
      · rw [if_neg heq] at h
        rcases List.mem_cons.mp h with rfl | hrest
        · exact .inr List.mem_cons_self
        · rcases ih hrest with hnew | hold
          · exact .inl hnew
          · exact .inr (List.mem_cons_of_mem _ hold)

theorem lookup_put_self : (put name value entries).lookup name = some value := by
  induction entries with
  | nil => simp [put]
  | cons entry rest ih =>
    obtain ⟨n, v⟩ := entry
    unfold put
    by_cases hlt : name < n
    · rw [if_pos hlt]
      simp
    · rw [if_neg hlt]
      by_cases heq : name = n
      · rw [if_pos heq]
        simp
      · rw [if_neg heq, List.lookup_cons, beq_eq_false_iff_ne.mpr heq]
        exact ih

theorem lookup_put_of_ne (h : x ≠ name) :
    (put name value entries).lookup x = entries.lookup x := by
  induction entries with
  | nil => simp [put, List.lookup_cons, beq_eq_false_iff_ne.mpr h]
  | cons entry rest ih =>
    obtain ⟨n, v⟩ := entry
    unfold put
    by_cases hlt : name < n
    · rw [if_pos hlt, List.lookup_cons, beq_eq_false_iff_ne.mpr h]
    · rw [if_neg hlt]
      by_cases heq : name = n
      · rw [if_pos heq, List.lookup_cons, List.lookup_cons, ← heq, beq_eq_false_iff_ne.mpr h]
      · rw [if_neg heq, List.lookup_cons, List.lookup_cons, ih]

theorem lookup_erase_of_ne (h : x ≠ name) : (erase name entries).lookup x = entries.lookup x := by
  induction entries with
  | nil => rfl
  | cons entry rest ih =>
    obtain ⟨n, v⟩ := entry
    unfold erase at ih ⊢
    by_cases heq : n = name
    · rw [List.filter_cons_of_neg (by simp [heq]), ih, List.lookup_cons, heq,
        beq_eq_false_iff_ne.mpr h]
    · rw [List.filter_cons_of_pos (by simp [heq]), List.lookup_cons, List.lookup_cons, ih]

/-- Each name of a map has one value. -/
theorem lookup_of_mem (h : Strict (entries.map Prod.fst)) (he : e ∈ entries) :
    entries.lookup e.1 = some e.2 := by
  induction entries with
  | nil => cases he
  | cons entry rest ih =>
    obtain ⟨hbelow, hrest⟩ := List.pairwise_cons.mp h
    rcases List.mem_cons.mp he with rfl | he
    · rw [List.lookup_cons, beq_self_eq_true]
    · have hne : e.1 ≠ entry.1 := fun heq =>
        String.lt_irrefl entry.1 (heq ▸ hbelow e.1 (List.mem_map_of_mem he))
      rw [List.lookup_cons, beq_eq_false_iff_ne.mpr hne]
      exact ih hrest he

/-- A name behind all others is put at the end. -/
theorem put_of_forall_lt (h : ∀ n ∈ entries.map Prod.fst, n < name) :
    put name value entries = entries ++ [(name, value)] := by
  induction entries with
  | nil => rfl
  | cons entry rest ih =>
    obtain ⟨n, v⟩ := entry
    have hbelow : n < name := h n List.mem_cons_self
    have hne : name ≠ n := fun heq => String.lt_irrefl n (heq ▸ hbelow)
    have hnot : ¬ name < n := fun hlt => String.lt_irrefl n (String.lt_trans hbelow hlt)
    rw [put, if_neg hnot, if_neg hne, ih fun m hm => h m (List.mem_cons_of_mem _ hm)]
    rfl

theorem foldl_put_of_strict (sorted : List (String × α))
    (h : Strict ((sorted ++ entries).map Prod.fst)) :
    entries.foldl (fun sorted e => put e.1 e.2 sorted) sorted = sorted ++ entries := by
  induction entries generalizing sorted with
  | nil => exact (List.append_nil sorted).symm
  | cons entry rest ih =>
    have hbelow : ∀ n ∈ sorted.map Prod.fst, n < entry.1 := by
      rw [List.map_append] at h
      intro n hn
      exact (List.pairwise_append.mp h).2.2 n hn entry.1 List.mem_cons_self
    rw [List.foldl_cons, put_of_forall_lt hbelow, ih, List.append_assoc]
    · rfl
    · rwa [List.append_assoc]

theorem ofEntries_concat (entries : List (String × α)) (e : String × α) :
    ofEntries (entries ++ [e]) = put e.1 e.2 (ofEntries entries) :=
  List.foldl_concat ..

theorem strict_ofEntries (entries : List (String × α)) :
    Strict ((ofEntries entries).map Prod.fst) := by
  induction entries using List.reverseRecOn with
  | nil => exact List.Pairwise.nil
  | append_singleton entries e ih =>
    rw [ofEntries_concat, map_fst_put]
    exact strict_putName ih

/-- The last value of a name stays. -/
theorem lookup_ofEntries (entries : List (String × α)) (name : String) :
    (ofEntries entries).lookup name
      = ((entries.filter fun e => e.1 == name).getLast?).map Prod.snd := by
  induction entries using List.reverseRecOn with
  | nil => rfl
  | append_singleton entries e ih =>
    rw [ofEntries_concat, List.filter_append]
    by_cases h : e.1 = name
    · rw [← h, lookup_put_self, List.filter_singleton, beq_self_eq_true]
      simp
    · rw [lookup_put_of_ne (Ne.symm h), ih, List.filter_singleton, beq_eq_false_iff_ne.mpr h]
      simp

/-- Entries that are in order stay as they are. -/
theorem ofEntries_of_strict (h : Strict (entries.map Prod.fst)) : ofEntries entries = entries :=
  foldl_put_of_strict [] h

end Maps

end ClientGen.Ascending
