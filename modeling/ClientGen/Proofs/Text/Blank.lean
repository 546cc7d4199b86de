/-
  ClientGen/Proofs/Text/Blank.lean
  ================================
  **Blanks and the first separator.**

  A text is what trimming leaves of it with blanks around (`exists_blanks_around`), so
  trimming changes neither what removing every blank gives nor whether a text is blank.
  Cutting at the first separator commutes with leaving out characters other than the
  separator (`splitFirst_filter`).
-/
import ClientGen.Text.Blank
import ClientGen.Text.Case
import ClientGen.Text.Split
import Mathlib.Data.List.DropRight
import Mathlib.Data.List.TakeWhile

namespace ClientGen.Text

/-! ### Blanks -/

/-- A text is what trimming leaves of it between blanks. -/
theorem exists_blanks_around (cs : List Char) :
    ∃ front back, cs = front ++ trimChars cs ++ back
      ∧ (∀ c ∈ front, isBlankChar c = true) ∧ ∀ c ∈ back, isBlankChar c = true := by
  refine ⟨cs.takeWhile isBlankChar,
    ((cs.dropWhile isBlankChar).reverse.takeWhile isBlankChar).reverse, ?_,
    fun c hc => List.mem_takeWhile_imp hc,
    fun c hc => List.mem_takeWhile_imp (List.mem_reverse.mp hc)⟩
  unfold trimChars
  rw [List.append_assoc, ← List.reverse_append, List.takeWhile_append_dropWhile,
    List.reverse_reverse, List.takeWhile_append_dropWhile]

theorem filter_of_blank {cs : List Char} (h : ∀ c ∈ cs, isBlankChar c = true) :
    cs.filter (fun c => !isBlankChar c) = [] := by
  rw [List.filter_eq_nil_iff]
  intro c hc
  simp [h c hc]

@[simp] theorem toList_removeBlanks (s : String) :
    (removeBlanks s).toList = s.toList.filter fun c => !isBlankChar c := by
  simp [removeBlanks]

@[simp] theorem removeBlanks_trim (s : String) : removeBlanks (trim s) = removeBlanks s := by
  obtain ⟨front, back, hs, hfront, hback⟩ := exists_blanks_around s.toList
  have hkept := congrArg (List.filter fun c => !isBlankChar c) hs
  rw [List.filter_append, List.filter_append, filter_of_blank hfront, filter_of_blank hback,
    List.nil_append, List.append_nil] at hkept
  rw [← String.toList_inj, toList_removeBlanks, toList_removeBlanks, toList_trim, hkept]

@[simp] theorem isBlank_trim (s : String) : isBlank (trim s) = isBlank s := by
  obtain ⟨front, back, hs, hfront, hback⟩ := exists_blanks_around s.toList
  have hall := congrArg (fun cs => cs.all isBlankChar) hs
  simp only [List.all_append, List.all_eq_true.mpr hfront, List.all_eq_true.mpr hback,
    Bool.true_and, Bool.and_true] at hall
  unfold isBlank
  rw [toList_trim, hall]

@[simp] theorem isBlank_removeBlanks (s : String) : isBlank (removeBlanks s) = isBlank s := by
  unfold isBlank
  rw [toList_removeBlanks, List.all_filter]
  congr 1
  funext c
  rw [Bool.not_not, Bool.or_self]

theorem mem_of_mem_trim {c : Char} {s : String} (h : c ∈ (trim s).toList) : c ∈ s.toList := by
  obtain ⟨front, back, hs, -, -⟩ := exists_blanks_around s.toList
  rw [toList_trim] at h
  rw [hs]
  exact List.mem_append_left _ (List.mem_append_right _ h)

/-- Trimming keeps every character that is not blank. -/
theorem mem_trim {c : Char} {s : String} (hc : isBlankChar c = false) :
    c ∈ (trim s).toList ↔ c ∈ s.toList := by
  refine ⟨mem_of_mem_trim, fun h => ?_⟩
  obtain ⟨front, back, hs, hfront, hback⟩ := exists_blanks_around s.toList
  rw [hs, List.mem_append, List.mem_append] at h
  rw [toList_trim]
  rcases h with (h | h) | h
  · rw [hfront c h] at hc
    cases hc
  · exact h
  · rw [hback c h] at hc
    cases hc

theorem dropWhile_blank_of_head {cs : List Char}
    (h : ∀ c, cs.head? = some c → isBlankChar c = false) : cs.dropWhile isBlankChar = cs := by
  cases cs with
  | nil => rfl
  | cons c cs => exact List.dropWhile_cons_of_neg (by simp [h c rfl])

theorem trim_of_noBlank {s : String} (h : ∀ c ∈ s.toList, isBlankChar c = false) : trim s = s := by
  have hkeep : ∀ {cs : List Char}, (∀ c ∈ cs, isBlankChar c = false) →
      cs.dropWhile isBlankChar = cs := by
    intro cs hcs
    exact dropWhile_blank_of_head fun c hc => hcs c (List.mem_of_mem_head? hc)
  rw [← String.toList_inj, toList_trim, trimChars, hkeep h,
    hkeep fun c hc => h c (List.mem_reverse.mp hc), List.reverse_reverse]

/-- A trimmed text has nothing left to trim. -/
@[simp] theorem trim_trim (s : String) : trim (trim s) = trim s := by
  rw [← String.toList_inj, toList_trim, toList_trim]
  have hback : (trimChars s.toList).reverse.dropWhile isBlankChar
      = (trimChars s.toList).reverse := by
    rw [trimChars, List.reverse_reverse, List.dropWhile_idempotent]
  have hfront : (trimChars s.toList).dropWhile isBlankChar = trimChars s.toList := by
    apply dropWhile_blank_of_head
    intro c hc
    -- the trimmed text starts as the text without its blanks in front does
    have hpre : trimChars s.toList <+: s.toList.dropWhile isBlankChar :=
      List.rdropWhile_prefix isBlankChar _
    obtain ⟨back, hback⟩ := hpre
    have hhead : (s.toList.dropWhile isBlankChar).head? = some c := by
      rw [← hback, List.head?_append, hc, Option.some_or]
    have hnot := List.head?_dropWhile_not isBlankChar s.toList
    rwa [hhead] at hnot
  conv_lhs => rw [trimChars, hfront, hback, List.reverse_reverse]

theorem removeBlanks_of_noBlank {s : String} (h : ∀ c ∈ s.toList, isBlankChar c = false) :
    removeBlanks s = s := by
  rw [← String.toList_inj, toList_removeBlanks, List.filter_eq_self]
  intro c hc
  rw [h c hc]
  rfl

theorem trim_blank_append {c : Char} (hc : isBlankChar c = true) (s : String) :
    trim (String.singleton c ++ s) = trim s := by
  rw [← String.toList_inj, toList_trim, toList_trim]
  simp [trimChars, List.dropWhile_cons_of_pos hc]

/-! ### The case of letters -/

/-- No blank is a letter, so the small form of a blank is the blank. -/
theorem toLower_of_blank {c : Char} (hc : isBlankChar c = true) : c.toLower = c := by
  unfold Char.toLower
  rw [dif_neg]
  rintro ⟨hlow, hhigh⟩
  have hlow : 65 ≤ c.toNat := hlow
  have hhigh : c.toNat ≤ 90 := hhigh
  simp only [isBlankChar, Bool.or_eq_true, Bool.and_eq_true, decide_eq_true_eq, beq_iff_eq] at hc
  omega

theorem noBlank_of_asciiLower {s : String}
    (h : ∀ c ∈ (asciiLower s).toList, isBlankChar c = false) :
    ∀ c ∈ s.toList, isBlankChar c = false := by
  intro c hc
  cases hblank : isBlankChar c with
  | false => rfl
  | true =>
    rw [← hblank]
    apply h
    rw [asciiLower, String.toList_ofList, List.mem_map]
    exact ⟨c, hc, toLower_of_blank hblank⟩

/-! ### Cutting at the first separator -/

/-- The cut does not see characters that are left out, as long as the separator stays. -/
theorem splitFirst_filter {sep : Char} {p : Char → Bool} (hsep : p sep = true) (cs : List Char) :
    splitFirst sep (cs.filter p)
      = (splitFirst sep cs).map fun e => (e.1.filter p, e.2.filter p) := by
  induction cs with
  | nil => rfl
  | cons c cs ih =>
    by_cases hc : c = sep
    · rw [List.filter_cons_of_pos (by rw [hc]; exact hsep)]
      simp [splitFirst, hc]
    · by_cases hp : p c = true
      · rw [List.filter_cons_of_pos hp, splitFirst, if_neg hc, splitFirst, if_neg hc, ih]
        simp [Option.map_map, Function.comp_def, List.filter_cons_of_pos hp]
      · rw [List.filter_cons_of_neg hp, ih, splitFirst, if_neg hc]
        simp [Option.map_map, Function.comp_def, List.filter_cons_of_neg hp]

theorem splitFirst_append {sep : Char} {front : List Char} (h : sep ∉ front) (back : List Char) :
    splitFirst sep (front ++ sep :: back) = some (front, back) := by
  induction front with
  | nil => exact if_pos rfl
  | cons c front ih =>
    rw [List.mem_cons, not_or] at h
    rw [List.cons_append, splitFirst, if_neg (Ne.symm h.1), ih h.2]
    rfl

theorem splitFirst_eq_some {sep : Char} {cs front back : List Char}
    (h : splitFirst sep cs = some (front, back)) : cs = front ++ sep :: back ∧ sep ∉ front := by
  induction cs generalizing front with
  | nil => cases h
  | cons c cs ih =>
    unfold splitFirst at h
    by_cases hc : c = sep
    · rw [if_pos hc] at h
      cases h
      exact ⟨by rw [hc]; rfl, List.not_mem_nil⟩
    · rw [if_neg hc] at h
      obtain ⟨⟨front', back'⟩, hcs, heq⟩ := Option.map_eq_some_iff.mp h
      cases heq
      obtain ⟨rfl, hfront⟩ := ih hcs
      refine ⟨rfl, ?_⟩
      rw [List.mem_cons, not_or]
      exact ⟨Ne.symm hc, hfront⟩

theorem splitOnce_eq_some {sep : Char} {s front back : String}
    (h : splitOnce sep s = some (front, back)) :
    s = front ++ String.singleton sep ++ back ∧ sep ∉ front.toList := by
  obtain ⟨⟨a, b⟩, hsplit, heq⟩ := Option.map_eq_some_iff.mp h
  cases heq
  obtain ⟨hs, ha⟩ := splitFirst_eq_some hsplit
  refine ⟨?_, by rwa [String.toList_ofList]⟩
  rw [← String.toList_inj, hs]
  simp

theorem splitOnce_append {sep : Char} {front : String} (h : sep ∉ front.toList) (back : String) :
    splitOnce sep (front ++ String.singleton sep ++ back) = some (front, back) := by
  have hlist : (front ++ String.singleton sep ++ back).toList
      = front.toList ++ sep :: back.toList := by
    simp
  rw [splitOnce, hlist, splitFirst_append h]
  simp

/-- Removing blanks commutes with the cut at a separator that is not blank. -/
theorem splitOnce_removeBlanks {sep : Char} (hsep : isBlankChar sep = false) (s : String) :
    splitOnce sep (removeBlanks s)
      = (splitOnce sep s).map fun e => (removeBlanks e.1, removeBlanks e.2) := by
  unfold splitOnce
  rw [toList_removeBlanks, splitFirst_filter (by rw [hsep]; rfl), Option.map_map, Option.map_map]
  congr 1
  funext e
  simp [removeBlanks]

end ClientGen.Text
