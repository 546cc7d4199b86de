/-
  ClientGen/Proofs/Vocabulary/Steering.lean
  =========================================
  **Which use settles whether a function is generated.**

  Settings take the place of everything that was read in front of them, while a mark to
  ignore the function changes one field of what it finds.  So the last use of either kind
  decides whether the function is generated, and the last settings decide the rest
  (`foldl_after`).  An ignored function is generated after all when settings follow the mark
  (`ignored_may_be_generated`), and with one use of settings the order of the uses matters
  for nothing else (`generate_settled`).
-/
import ClientGen.Proofs.Vocabulary.Partition
import Mathlib.Data.List.Induction

namespace ClientGen

/-! ### Uses that steer -/

namespace AnnotationUse

/-- The use gives its function settings. -/
def givesSettings (a : AnnotationUse) : Bool :=
  a.word? == some .ktorGenFunction

/-- The use marks its function to be ignored. -/
def ignores (a : AnnotationUse) : Bool :=
  a.word? == some .ktorGenIgnore

/-- Generation depends on the use. -/
def steers (a : AnnotationUse) : Bool :=
  a.ignores || a.givesSettings

/-- What a use that steers says about generation. -/
def generates (a : AnnotationUse) : Bool :=
  !a.ignores && a.flag "generate" true

theorem not_ignores_of_givesSettings {a : AnnotationUse} (h : a.givesSettings = true) :
    a.ignores = false := by
  rw [ignores, eq_of_beq h]
  rfl

end AnnotationUse

namespace FunctionSettings

section Step

variable (s : FunctionSettings) {a : AnnotationUse}

theorem after_of_givesSettings (h : a.givesSettings = true) :
    s.after a = a.readFunctionSettings := by
  rw [after, eq_of_beq h]

theorem after_of_ignores (h : a.ignores = true) : s.after a = { s with generate := false } := by
  rw [after, eq_of_beq h]

theorem after_of_not_steers (h : a.steers = false) : s.after a = s := by
  rw [AnnotationUse.steers, Bool.or_eq_false_iff] at h
  obtain ⟨hignores, hsettings⟩ := h
  unfold after
  split
  · rename_i hword
    rw [AnnotationUse.givesSettings, hword] at hsettings
    cases hsettings
  · rename_i hword
    rw [AnnotationUse.ignores, hword] at hignores
    cases hignores
  · rfl

end Step

/-- The settings that the last use of settings gives, whatever stands behind it. -/
def lastGiven (s : FunctionSettings) (uses : List AnnotationUse) : FunctionSettings :=
  match (uses.filter AnnotationUse.givesSettings).getLast? with
  | some a => a.readFunctionSettings
  | none => s

/-- What the last use that steers says about generation. -/
def lastSaid (generate : Bool) (uses : List AnnotationUse) : Bool :=
  match (uses.filter AnnotationUse.steers).getLast? with
  | some a => a.generates
  | none => generate

/-- Generation is settled by the last use that steers, all else by the last settings. -/
theorem foldl_after (s : FunctionSettings) (uses : List AnnotationUse) :
    uses.foldl after s = { s.lastGiven uses with generate := lastSaid s.generate uses } := by
  induction uses using List.reverseRecOn with
  | nil => rfl
  | append_singleton uses a ih =>
    rw [List.foldl_append, ih, List.foldl_cons, List.foldl_nil]
    unfold lastGiven lastSaid
    rw [List.filter_append, List.filter_append]
    by_cases hsettings : a.givesSettings = true
    · have hignores := AnnotationUse.not_ignores_of_givesSettings hsettings
      rw [after_of_givesSettings _ hsettings]
      simp [AnnotationUse.steers, hsettings, AnnotationUse.generates, hignores,
        AnnotationUse.readFunctionSettings]
    · rw [Bool.not_eq_true] at hsettings
      cases hignores : a.ignores with
      | true =>
        rw [after_of_ignores _ hignores]
        simp [AnnotationUse.steers, hsettings, hignores, AnnotationUse.generates]
      | false =>
        have hsteers : a.steers = false := by
          rw [AnnotationUse.steers, hsettings, hignores]
          rfl
        rw [after_of_not_steers _ hsteers]
        simp [hsettings, hsteers]

/-- With settings that do not generate, a mark to ignore stands at whatever place. -/
theorem lastSaid_of_ignores {uses : List AnnotationUse} (generate : Bool)
    (hignored : ∃ a ∈ uses, a.ignores = true)
    (h : ∀ a ∈ uses, a.givesSettings = true → a.generates = false) :
    lastSaid generate uses = false := by
  obtain ⟨i, hi, hignores⟩ := hignored
  have hsteers : i ∈ uses.filter AnnotationUse.steers :=
    List.mem_filter.mpr ⟨hi, by rw [AnnotationUse.steers, hignores, Bool.true_or]⟩
  unfold lastSaid
  cases hlast : (uses.filter AnnotationUse.steers).getLast? with
  | none =>
    rw [List.getLast?_eq_none_iff.mp hlast] at hsteers
    cases hsteers
  | some a =>
    obtain ⟨ha, hkind⟩ := List.mem_filter.mp (List.mem_of_getLast? hlast)
    rw [AnnotationUse.steers, Bool.or_eq_true] at hkind
    rcases hkind with hignores | hsettings
    · simp only [AnnotationUse.generates, hignores, Bool.not_true, Bool.false_and]
    · exact h a ha hsettings

end FunctionSettings

/-! ### The order of uses -/

theorem eq_of_perm_of_length_le_one {α : Type} {xs ys : List α} (h : xs.Perm ys)
    (hys : ys.length ≤ 1) : xs = ys := by
  match ys, hys with
  | [], _ => exact h.eq_nil
  | [y], _ => exact h.eq_singleton

theorem exists_perm_concat {α : Type} {xs : List α} {x : α} (h : x ∈ xs) :
    ∃ front, (front ++ [x]).Perm xs := by
  obtain ⟨front, back, rfl⟩ := List.append_of_mem h
  exact ⟨front ++ back, (List.perm_append_singleton x _).trans List.perm_middle.symm⟩

section Order

variable {uses uses' : List AnnotationUse}

theorem settings_of_perm (hperm : uses'.Perm uses)
    (honce : (uses.filter AnnotationUse.givesSettings).length ≤ 1)
    (h : (∃ a ∈ uses, a.ignores = true) →
      ∀ a ∈ uses, a.givesSettings = true → a.generates = false) :
    (readFunctionAnnotations uses').settings = (readFunctionAnnotations uses).settings := by
  have hgiven : uses'.filter AnnotationUse.givesSettings
      = uses.filter AnnotationUse.givesSettings :=
    eq_of_perm_of_length_le_one (hperm.filter _) honce
  change uses'.foldl FunctionSettings.after _ = uses.foldl FunctionSettings.after _
  rw [FunctionSettings.foldl_after, FunctionSettings.foldl_after, FunctionSettings.lastGiven,
    hgiven, FunctionSettings.lastGiven]
  by_cases hignored : ∃ a ∈ uses, a.ignores = true
  · have hall := h hignored
    obtain ⟨i, hi, hignores⟩ := hignored
    rw [FunctionSettings.lastSaid_of_ignores _ ⟨i, hi, hignores⟩ hall,
      FunctionSettings.lastSaid_of_ignores _ ⟨i, hperm.mem_iff.mpr hi, hignores⟩
        fun a ha => hall a (hperm.mem_iff.mp ha)]
  · -- only settings steer, and they stand once
    have hsteers : ∀ a ∈ uses, a.steers = a.givesSettings := by
      intro a ha
      have hnot : a.ignores = false := Bool.eq_false_iff.mpr fun hi => hignored ⟨a, ha, hi⟩
      rw [AnnotationUse.steers, hnot, Bool.false_or]
    rw [FunctionSettings.lastSaid, FunctionSettings.lastSaid,
      List.filter_congr fun a ha => hsteers a (hperm.mem_iff.mp ha), hgiven,
      List.filter_congr hsteers]

theorem generate_concat (front : List AnnotationUse) {a : AnnotationUse} (h : a.steers = true) :
    (readFunctionAnnotations (front ++ [a])).settings.generate = a.generates := by
  change ((front ++ [a]).foldl FunctionSettings.after _).generate = _
  rw [FunctionSettings.foldl_after, FunctionSettings.lastSaid, List.filter_append,
    List.filter_cons_of_pos h, List.filter_nil, List.getLast?_concat]

end Order

/-- A function is left out exactly when the last use that steers says so.  With settings given
    once at most, the uses may stand in any order exactly when no mark to ignore the function
    stands beside settings that generate it. -/
theorem generate_settled (uses : List AnnotationUse) :
    ((readFunctionAnnotations uses).settings.generate = false
        ↔ ∃ a, (uses.filter AnnotationUse.steers).getLast? = some a ∧ a.generates = false)
      ∧ ((uses.filter AnnotationUse.givesSettings).length ≤ 1 →
        ((∀ uses' : List AnnotationUse, uses'.Perm uses →
            (readFunctionAnnotations uses').settings = (readFunctionAnnotations uses).settings)
          ↔ ((∃ a ∈ uses, a.ignores = true) →
            ∀ a ∈ uses, a.givesSettings = true → a.generates = false))) := by
  constructor
  · change (uses.foldl FunctionSettings.after _).generate = false ↔ _
    rw [FunctionSettings.foldl_after]
    change FunctionSettings.lastSaid true uses = false ↔ _
    unfold FunctionSettings.lastSaid
    cases (uses.filter AnnotationUse.steers).getLast? with
    | none => simp
    | some a => simp
  · intro honce
    constructor
    · rintro hsame ⟨i, hi, hignores⟩ a ha hsettings
      obtain ⟨front, hlast⟩ := exists_perm_concat ha
      obtain ⟨front', hlast'⟩ := exists_perm_concat hi
      have hgenerate := generate_concat front (a := a) (by
        rw [AnnotationUse.steers, hsettings, Bool.or_true])
      have hgenerate' := generate_concat front' (a := i) (by
        rw [AnnotationUse.steers, hignores, Bool.true_or])
      rw [hsame _ hlast] at hgenerate
      rw [hsame _ hlast', hgenerate, AnnotationUse.generates, AnnotationUse.generates,
        hignores] at hgenerate'
      exact hgenerate'
    · exact fun h uses' hperm => settings_of_perm hperm honce h

/-- An ignored function with settings that do not generate it, and the same the other way
    round. -/
theorem generate_settled_of_refused :
    let mark := AnnotationUse.named "KtorGenIgnore"
    let settings : AnnotationUse := ⟨"KtorGenFunction", [("generate", .bool false)]⟩
    (readFunctionAnnotations [mark, settings]).settings.generate = false
      ∧ (readFunctionAnnotations [mark, settings]).settings
        = (readFunctionAnnotations [settings, mark]).settings := by
  intro mark settings
  have hrefused : ∀ a ∈ [settings, mark], a.givesSettings = true → a.generates = false := by
    decide +kernel
  have hsame := ((generate_settled [settings, mark]).2 (by decide +kernel)).mpr fun _ => hrefused
  have hsteer : ∀ a ∈ [mark, settings], a.steers = true := by
    decide +kernel
  have hlast : ([mark, settings].filter AnnotationUse.steers).getLast? = some settings := by
    rw [List.filter_eq_self.mpr hsteer]
    rfl
  exact ⟨(generate_settled [mark, settings]).1.mpr ⟨settings, hlast, by decide +kernel⟩,
    hsame [mark, settings] (.swap _ _ [])⟩

/-- Settings behind the mark bring an ignored function back, and in front of it they do not. -/
theorem ignored_may_be_generated :
    (¬ ∀ uses : List AnnotationUse, (∃ a ∈ uses, a.ignores = true) →
        (readFunctionAnnotations uses).settings.generate = false)
      ∧ ¬ ∀ uses uses' : List AnnotationUse,
        (uses.filter AnnotationUse.givesSettings).length ≤ 1 → uses'.Perm uses →
          (readFunctionAnnotations uses').settings = (readFunctionAnnotations uses).settings := by
  have hback : (readFunctionAnnotations
      [.named "KtorGenIgnore", .named "KtorGenFunction"]).settings.generate = true := by
    decide +kernel
  constructor
  · intro h
    rw [h _ ⟨.named "KtorGenIgnore", List.mem_cons_self, by decide +kernel⟩] at hback
    cases hback
  · intro h
    have hswap := h [.named "KtorGenFunction", .named "KtorGenIgnore"]
      [.named "KtorGenIgnore", .named "KtorGenFunction"] (by decide +kernel) (.swap _ _ [])
    rw [hswap] at hback
    exact absurd hback (by decide +kernel)

end ClientGen
