/-
  ClientGen/Proofs/Text/Pieces.lean
  =================================
  **Pieces between separators.**

  Cutting a text at a separator gives the pieces of what stands in front and of what
  stands behind, and no piece holds the separator.  What line breaks keep apart holds of a
  text exactly if it holds of its lines (`forall_mem_lineChars`).  The last piece of a dotted
  name is its simple name: `splitLast` gives it with what stands in front, and both together
  are the name (`splitLast_eq_some`).  A text goes on starting with what it starts with,
  whatever is written behind it (`startsWith_append`), and a text that starts otherwise goes on
  doing so (`StartsOtherwise.append`).
-/
import ClientGen.Imports

namespace ClientGen

namespace Text

theorem pieces_of_not_mem {sep : Char} {cs : List Char} (h : sep ∉ cs) : pieces sep cs = [cs] := by
  induction cs with
  | nil => rfl
  | cons c cs ih =>
    rw [List.mem_cons, not_or] at h
    obtain ⟨hc, hcs⟩ := h
    rw [pieces, if_neg (Ne.symm hc), ih hcs]
    rfl

theorem consHead_append (c : Char) {ps : List (List Char)} (h : ps ≠ []) (qs : List (List Char)) :
    consHead c (ps ++ qs) = consHead c ps ++ qs := by
  cases ps with
  | nil => exact (h rfl).elim
  | cons p ps => rfl

theorem pieces_append (sep : Char) (cs ds : List Char) :
    pieces sep (cs ++ sep :: ds) = pieces sep cs ++ pieces sep ds := by
  induction cs with
  | nil => simp [pieces]
  | cons c cs ih =>
    rw [List.cons_append]
    simp only [pieces]
    by_cases hc : c = sep
    · rw [if_pos hc, if_pos hc, ih, List.cons_append]
    · rw [if_neg hc, if_neg hc, ih, consHead_append c (pieces_ne_nil sep cs)]

theorem pieces_append_of_not_mem {sep : Char} {cs : List Char} (h : sep ∉ cs) (ds : List Char) :
    pieces sep (cs ++ sep :: ds) = cs :: pieces sep ds := by
  rw [pieces_append, pieces_of_not_mem h, List.singleton_append]

theorem splitOn_of_not_mem {sep : Char} {s : String} (h : sep ∉ s.toList) :
    splitOn sep s = [s] := by
  rw [splitOn, pieces_of_not_mem h, List.map_singleton, String.ofList_toList]

theorem splitOn_append (sep : Char) (s t : String) :
    splitOn sep (s ++ String.singleton sep ++ t) = splitOn sep s ++ splitOn sep t := by
  rw [splitOn, String.toList_append, String.toList_append, String.toList_singleton,
    List.append_assoc, List.singleton_append, pieces_append, List.map_append, splitOn, splitOn]

theorem mem_of_mem_pieces {sep c : Char} {cs p : List Char} (hp : p ∈ pieces sep cs)
    (hc : c ∈ p) : c ∈ cs := by
  induction cs generalizing p with
  | nil => rw [pieces, List.mem_singleton] at hp; rwa [hp] at hc
  | cons d cs ih =>
    simp only [pieces] at hp
    split at hp
    · rcases List.mem_cons.mp hp with rfl | hp
      · cases hc
      · exact List.mem_cons_of_mem _ (ih hp hc)
    · cases hps : pieces sep cs with
      | nil => exact (pieces_ne_nil sep cs hps).elim
      | cons q qs =>
        rw [hps, consHead] at hp
        rw [hps] at ih
        rcases List.mem_cons.mp hp with rfl | hp
        · rcases List.mem_cons.mp hc with rfl | hc
          · exact List.mem_cons_self
          · exact List.mem_cons_of_mem _ (ih List.mem_cons_self hc)
        · exact List.mem_cons_of_mem _ (ih (List.mem_cons_of_mem _ hp) hc)

theorem not_mem_of_mem_pieces {sep : Char} {cs p : List Char} (hp : p ∈ pieces sep cs) :
    sep ∉ p := by
  induction cs generalizing p with
  | nil =>
    rw [pieces, List.mem_singleton] at hp
    rw [hp]
    exact List.not_mem_nil
  | cons c cs ih =>
    simp only [pieces] at hp
    split at hp
    · rcases List.mem_cons.mp hp with rfl | hp
      · exact List.not_mem_nil
      · exact ih hp
    · rename_i hc
      cases hps : pieces sep cs with
      | nil => exact (pieces_ne_nil sep cs hps).elim
      | cons q qs =>
        rw [hps, consHead] at hp
        rw [hps] at ih
        rcases List.mem_cons.mp hp with rfl | hp
        · rw [List.mem_cons, not_or]
          exact ⟨Ne.symm hc, ih List.mem_cons_self⟩
        · exact ih (List.mem_cons_of_mem _ hp)

/-- Seen from the last separator, behind which the simple name of a dotted name stands. -/
theorem joinPieces_concat (sep : Char) {ps : List (List Char)} (h : ps ≠ []) (p : List Char) :
    joinPieces sep (ps ++ [p]) = joinPieces sep ps ++ sep :: p := by
  induction ps with
  | nil => exact (h rfl).elim
  | cons q ps ih =>
    cases ps with
    | nil => rfl
    | cons r ps =>
      have hrest := ih (List.cons_ne_nil r ps)
      simp only [List.cons_append, joinPieces] at hrest ⊢
      rw [hrest, List.append_assoc, List.cons_append]

/-! ### Lines -/

def isLineBreak (c : Char) : Bool :=
  c == '\n' || c == '\r'

theorem isLineBreak_of_ne {c : Char} (hfeed : c ≠ '\n') (hreturn : c ≠ '\r') :
    isLineBreak c = false := by
  rw [isLineBreak, Bool.or_eq_false_iff, beq_eq_false_iff_ne, beq_eq_false_iff_ne]
  exact ⟨hfeed, hreturn⟩

theorem dropFinalReturn_eq (l : List Char) :
    dropFinalReturn l = l ∨ l = dropFinalReturn l ++ ['\r'] := by
  unfold dropFinalReturn
  split
  · rename_i rest hl
    right
    rw [← List.reverse_reverse l, hl, List.reverse_cons]
  · exact .inl rfl

/-- The last piece is a line unless it is empty; the others lose their carriage return. -/
theorem exists_lineChars (cs : List Char) :
    ∃ ended last, pieces '\n' cs = ended ++ [last]
      ∧ lineChars cs = ended.map dropFinalReturn ++ if last.isEmpty then [] else [last] := by
  obtain ⟨ended, last, hps⟩ := (List.eq_nil_or_concat (pieces '\n' cs)).resolve_left
    (pieces_ne_nil '\n' cs)
  rw [List.concat_eq_append] at hps
  refine ⟨ended, last, hps, ?_⟩
  simp only [lineChars, hps, List.getLast?_concat, List.dropLast_concat]
  cases last with
  | nil => exact (List.append_nil _).symm
  | cons c last => rfl

theorem feed_not_mem_of_mem_lineChars {cs l : List Char} (h : l ∈ lineChars cs) : '\n' ∉ l := by
  obtain ⟨ended, last, hps, hlines⟩ := exists_lineChars cs
  have hpieces : ∀ p ∈ ended ++ [last], '\n' ∉ p := by
    rw [← hps]
    exact fun p hp => not_mem_of_mem_pieces hp
  obtain ⟨hended, hlast⟩ := List.forall_mem_append.mp hpieces
  rw [hlines] at h
  rcases List.mem_append.mp h with h | h
  · obtain ⟨p, hp, rfl⟩ := List.mem_map.mp h
    rcases dropFinalReturn_eq p with heq | heq
    · rw [heq]
      exact hended p hp
    · intro hfeed
      apply hended p hp
      rw [heq]
      exact List.mem_append_left _ hfeed
  · split at h
    · cases h
    · exact hlast l h

/-- What holds of a text exactly if it holds of the parts between its line feeds, with or
    without a carriage return at their ends, holds of the text exactly if it holds of its
    lines. -/
theorem forall_mem_lineChars {P : List Char → Prop} (hnil : P [])
    (hfeed : ∀ a b, P (a ++ '\n' :: b) ↔ P a ∧ P b) (hreturn : ∀ a, P (a ++ ['\r']) ↔ P a)
    (cs : List Char) : (∀ l ∈ lineChars cs, P l) ↔ P cs := by
  have hjoin : ∀ ps, P (joinPieces '\n' ps) ↔ ∀ p ∈ ps, P p := by
    intro ps
    induction ps with
    | nil => simp [joinPieces, hnil]
    | cons p ps ih =>
      cases ps with
      | nil => simp [joinPieces]
      | cons q ps =>
        have hcons : joinPieces '\n' (p :: q :: ps) = p ++ '\n' :: joinPieces '\n' (q :: ps) := rfl
        rw [hcons, hfeed, ih, List.forall_mem_cons (l := q :: ps)]
  have hdrop : ∀ l, P (dropFinalReturn l) ↔ P l := by
    intro l
    rcases dropFinalReturn_eq l with heq | heq
    · rw [heq]
    · rw [← hreturn, ← heq]
  obtain ⟨ended, last, hps, hlines⟩ := exists_lineChars cs
  have hended : (∀ l ∈ ended.map dropFinalReturn, P l) ↔ ∀ l ∈ ended, P l := by
    simp [hdrop]
  have hlast : (∀ l ∈ (if last.isEmpty then [] else [last]), P l) ↔ ∀ l ∈ [last], P l := by
    cases last with
    | nil => simp [hnil]
    | cons c last => exact Iff.rfl
  rw [hlines, List.forall_mem_append, hended, hlast, ← List.forall_mem_append, ← hps, ← hjoin,
    join_pieces]

/-! ### Fronts -/

theorem dropFront_self (front rest : List Char) : dropFront front (front ++ rest) = some rest := by
  induction front with
  | nil => rfl
  | cons c front ih => rw [List.cons_append, dropFront, if_pos rfl, ih]

theorem dropFront_cons_of_ne {f c : Char} (h : f ≠ c) (front cs : List Char) :
    dropFront (f :: front) (c :: cs) = none :=
  if_neg h

theorem dropFront_eq_some {front cs rest : List Char} (h : dropFront front cs = some rest) :
    cs = front ++ rest := by
  induction front generalizing cs with
  | nil =>
    cases h
    rfl
  | cons f front ih =>
    cases cs with
    | nil => cases h
    | cons c cs =>
      rw [dropFront] at h
      split at h
      · rename_i hsame
        rw [hsame, ih h, List.cons_append]
      · cases h

theorem dropFront_append {front cs rest : List Char} (h : dropFront front cs = some rest)
    (behind : List Char) : dropFront front (cs ++ behind) = some (rest ++ behind) := by
  induction front generalizing cs with
  | nil =>
    cases h
    rfl
  | cons f front ih =>
    cases cs with
    | nil => cases h
    | cons c cs =>
      rw [dropFront] at h
      rw [List.cons_append, dropFront]
      split at h
      · rename_i hsame
        rw [if_pos hsame]
        exact ih h
      · cases h

theorem startsWith_append {s front : String} (h : startsWith s front = true) (behind : String) :
    startsWith (s ++ behind) front = true := by
  unfold startsWith at h ⊢
  obtain ⟨rest, hrest⟩ := Option.isSome_iff_exists.mp h
  rw [String.toList_append, dropFront_append hrest, Option.isSome_some]

theorem startsWith_iff {s front : String} :
    startsWith s front = true ↔ ∃ rest, s = front ++ rest := by
  constructor
  · intro h
    obtain ⟨rest, hrest⟩ := Option.isSome_iff_exists.mp h
    refine ⟨String.ofList rest, ?_⟩
    rw [← String.toList_inj, String.toList_append, String.toList_ofList]
    exact dropFront_eq_some hrest
  · rintro ⟨rest, rfl⟩
    rw [startsWith, String.toList_append, dropFront_self, Option.isSome_some]

theorem endsWith_iff {s back : String} : endsWith s back = true ↔ ∃ rest, s = rest ++ back := by
  constructor
  · intro h
    obtain ⟨rest, hrest⟩ := Option.isSome_iff_exists.mp h
    refine ⟨String.ofList rest.reverse, ?_⟩
    have hback := congrArg List.reverse (dropFront_eq_some hrest)
    rw [List.reverse_reverse, List.reverse_append, List.reverse_reverse] at hback
    rw [← String.toList_inj, String.toList_append, String.toList_ofList, hback]
  · rintro ⟨rest, rfl⟩
    rw [endsWith, String.toList_append, List.reverse_append, dropFront_self, Option.isSome_some]

/-! ### Search and replacement -/

theorem occursIn_append (front needle back : List Char) :
    occursIn needle (front ++ (needle ++ back)) = true := by
  induction front with
  | nil =>
    cases needle with
    | nil => cases back <;> rfl
    | cons c needle =>
      have hfront := dropFront_self (c :: needle) back
      rw [List.cons_append] at hfront
      rw [List.nil_append, List.cons_append, occursIn, hfront]
      rfl
  | cons c front ih => rw [List.cons_append, occursIn, ih, Bool.or_true]

theorem mem_of_mem_replaceFrom {needle form cs : List Char} {skip : Nat} {c : Char}
    (h : c ∈ replaceFrom needle form skip cs) : c ∈ form ∨ c ∈ cs := by
  induction skip, cs using replaceFrom.induct needle with
  | case1 skip => cases h
  | case2 skip d cs ih => exact (ih h).imp id (List.mem_cons_of_mem d)
  | case3 d cs hneedle ih =>
    rw [replaceFrom, if_pos hneedle, List.mem_append] at h
    exact h.elim .inl fun h => (ih h).imp id (List.mem_cons_of_mem d)
  | case4 d cs hneedle ih =>
    rw [replaceFrom, if_neg hneedle] at h
    rcases List.mem_cons.mp h with rfl | h
    · exact .inr List.mem_cons_self
    · exact (ih h).imp id (List.mem_cons_of_mem d)

/-! ### Texts that start or end otherwise -/

/-- The lists differ at a place that both have. -/
def differ : List Char → List Char → Bool
  | a :: as, b :: bs => a != b || differ as bs
  | _, _ => false

-- A text with unknown parts starts otherwise as soon as a place in its known front differs,
-- which can be decided.
theorem differ_append {as bs : List Char} (h : differ as bs = true) (cs : List Char) :
    differ as (bs ++ cs) = true := by
  induction as generalizing bs with
  | nil => cases bs <;> cases h
  | cons a as ih =>
    cases bs with
    | nil => cases h
    | cons b bs =>
      simp only [differ, Bool.or_eq_true, List.cons_append] at h ⊢
      exact h.imp id ih

theorem dropFront_eq_none {as bs : List Char} (h : differ as bs = true) :
    dropFront as bs = none := by
  induction as generalizing bs with
  | nil => cases bs <;> cases h
  | cons a as ih =>
    cases bs with
    | nil => cases h
    | cons b bs =>
      simp only [differ, Bool.or_eq_true, bne_iff_ne] at h
      unfold dropFront
      by_cases heq : a = b
      · rw [if_pos heq]
        exact ih (h.resolve_left (absurd heq))
      · rw [if_neg heq]

theorem differ_self_append (as bs : List Char) : differ as (as ++ bs) = false := by
  induction as with
  | nil => rfl
  | cons a as ih => simp [differ, ih]

/-- The text differs from the start at a place that both have. -/
def StartsOtherwise (start text : String) : Prop :=
  differ start.toList text.toList = true

/-- The text differs from the ending at a place that both have, counted from the end. -/
def EndsOtherwise (ending text : String) : Prop :=
  differ ending.toList.reverse text.toList.reverse = true

instance (start text : String) : Decidable (StartsOtherwise start text) :=
  inferInstanceAs (Decidable (_ = true))

instance (ending text : String) : Decidable (EndsOtherwise ending text) :=
  inferInstanceAs (Decidable (_ = true))

/-- Literals are compared by their characters. -/
theorem startsOtherwise_ofList {as bs : List Char} (h : differ as bs = true) :
    StartsOtherwise (String.ofList as) (String.ofList bs) := by
  unfold StartsOtherwise
  rw [String.toList_ofList, String.toList_ofList]
  exact h

section Texts

variable {start ending text : String}

theorem StartsOtherwise.append (h : StartsOtherwise start text) (rest : String) :
    StartsOtherwise start (text ++ rest) := by
  unfold StartsOtherwise at h ⊢
  rw [String.toList_append]
  exact differ_append h _

theorem StartsOtherwise.ne (h : StartsOtherwise start text) (rest : String) :
    text ≠ start ++ rest := by
  rintro rfl
  unfold StartsOtherwise at h
  rw [String.toList_append, differ_self_append] at h
  cases h

theorem StartsOtherwise.startsWith_eq_false (h : StartsOtherwise start text) :
    startsWith text start = false := by
  rw [startsWith, dropFront_eq_none h, Option.isSome_none]

theorem EndsOtherwise.prepend (h : EndsOtherwise ending text) (front : String) :
    EndsOtherwise ending (front ++ text) := by
  unfold EndsOtherwise at h ⊢
  rw [String.toList_append, List.reverse_append]
  exact differ_append h _

theorem EndsOtherwise.ne (h : EndsOtherwise ending text) (front : String) :
    text ≠ front ++ ending := by
  rintro rfl
  unfold EndsOtherwise at h
  rw [String.toList_append, List.reverse_append, differ_self_append] at h
  cases h

end Texts

end Text

open ClientGen.Text

/-! ### Dotted names -/

/-- The simple name stands behind the last dot. -/
theorem splitLast_eq_some {name package simple : String}
    (h : splitLast name = some (package, simple)) :
    name = package ++ "." ++ simple ∧ '.' ∉ simple.toList := by
  unfold splitLast at h
  split at h
  · rename_i last front rest hpieces
    obtain ⟨rfl, rfl⟩ := Prod.mk.inj (Option.some.inj h)
    have hsplit : pieces '.' name.toList = (front :: rest).reverse ++ [last] := by
      rw [← List.reverse_reverse (pieces '.' name.toList), hpieces, List.reverse_cons]
    have hfront : (front :: rest).reverse ≠ [] := by simp
    constructor
    · have hname := join_pieces '.' name.toList
      rw [hsplit, joinPieces_concat '.' hfront] at hname
      rw [← String.toList_inj, ← hname]
      simp
    · rw [String.toList_ofList]
      have hlast : last ∈ pieces '.' name.toList := by
        rw [hsplit]
        exact List.mem_append_right _ (List.mem_singleton_self last)
      exact not_mem_of_mem_pieces hlast
  · cases h

/-- A name with a dot has a package and a simple name. -/
theorem exists_splitLast {name : String} (h : '.' ∈ name.toList) :
    ∃ package simple, splitLast name = some (package, simple) := by
  obtain ⟨front, back, hsplit⟩ := List.append_of_mem h
  have hpieces := pieces_append '.' front back
  rw [← hsplit] at hpieces
  unfold splitLast
  cases hback : (pieces '.' back).reverse with
  | nil => exact (pieces_ne_nil '.' back (List.reverse_eq_nil_iff.mp hback)).elim
  | cons last rest =>
    rw [hpieces, List.reverse_append, hback]
    cases hrest : rest ++ (pieces '.' front).reverse with
    | nil =>
      have hnone := (List.append_eq_nil_iff.mp hrest).2
      exact (pieces_ne_nil '.' front (List.reverse_eq_nil_iff.mp hnone)).elim
    | cons next rest' =>
      rw [List.cons_append, hrest]
      exact ⟨_, _, rfl⟩

end ClientGen
