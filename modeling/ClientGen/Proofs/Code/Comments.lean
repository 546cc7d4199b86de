/-
  ClientGen/Proofs/Code/Comments.lean
  ===================================
  **User text in comments.**

  Block comments nest: each opening mark inside one has to be closed again.  In a documentation
  comment the closing marks of the text are written harmlessly and the opening marks are not,
  so a line closes nothing and opens what its text opens (`skipComment_docLine`), and the
  comment ends at its own last line exactly if the whole text opens nothing
  (`readComment_docText_iff`).  A line comment ends at the next line feed or carriage return.
  The comment on top of a file is cut at line feeds only, so all of its text is hidden exactly
  if nothing has to be hidden behind its carriage returns (`outside_commentSection_iff`).
-/
import ClientGen.Client.SourceFile
import ClientGen.Proofs.Text.Pieces
import Mathlib.Data.List.TakeWhile

namespace ClientGen.Code

open ClientGen.Client ClientGen.Text

/-! ### Block comments -/

/-- What stands behind a block comment in which so many further comments are open. -/
def skipComment : Nat → List Char → Option (List Char)
  | _, [] => none
  | 0, '*' :: '/' :: cs => some cs
  | depth + 1, '*' :: '/' :: cs => skipComment depth cs
  | depth, '/' :: '*' :: cs => skipComment (depth + 1) cs
  | depth, _ :: cs => skipComment depth cs

/-- What stands behind the block comment in front of a text. -/
def readComment : List Char → Option (List Char)
  | ' ' :: cs => readComment cs
  | '/' :: '*' :: cs => skipComment 0 cs
  | _ => none

/-- How many comments a text opens when none of its closing marks counts. -/
def openers : List Char → Nat
  | [] => 0
  | '*' :: '/' :: cs => openers cs
  | '/' :: '*' :: cs => openers ('*' :: cs) + 1
  | _ :: cs => openers cs

/-- A character and what stands behind it begin with no mark. -/
def StandsApart (c : Char) (cs : List Char) : Prop :=
  (c = '*' → cs.head? ≠ some '/') ∧ (c = '/' → cs.head? ≠ some '*')

/-- No part of a mark. -/
def isOrdinary (c : Char) : Bool :=
  c != '*' && c != '/'

section BlockComments

variable {c : Char} {cs rest : List Char}

theorem StandsApart.of_ordinary (h : isOrdinary c = true) : StandsApart c cs := by
  simp only [isOrdinary, Bool.and_eq_true, bne_iff_ne] at h
  exact ⟨fun hc => (h.1 hc).elim, fun hc => (h.2 hc).elim⟩

theorem StandsApart.not_closing (h : StandsApart c cs) (behind : List Char) (hc : c = '*')
    (hcs : cs = '/' :: behind) : False :=
  h.1 hc (by rw [hcs, List.head?_cons])

theorem StandsApart.not_opening (h : StandsApart c cs) (behind : List Char) (hc : c = '/')
    (hcs : cs = '*' :: behind) : False :=
  h.2 hc (by rw [hcs, List.head?_cons])

theorem StandsApart.of_not (hclose : ∀ behind, c = '*' → cs = '/' :: behind → False)
    (hopen : ∀ behind, c = '/' → cs = '*' :: behind → False) : StandsApart c cs := by
  constructor <;> intro hc hcs <;> obtain ⟨behind, hcs⟩ := List.head?_eq_some_iff.mp hcs
  · exact hclose behind hc hcs
  · exact hopen behind hc hcs

/-- What stands apart from a text stands apart from one that begins alike, with no part of a
    mark behind it. -/
theorem StandsApart.append {ds : List Char} (h : StandsApart c cs) (hhead : ds.head? = cs.head?)
    (hrest : ∀ d ∈ rest.head?, isOrdinary d = true) : StandsApart c (ds ++ rest) := by
  have hnone : ∀ d, isOrdinary d = false → (ds ++ rest).head? = some d → cs.head? = some d := by
    intro d hd heq
    rw [List.head?_append, hhead] at heq
    cases hcs : cs.head? with
    | some e => rwa [hcs] at heq
    | none =>
      rw [hcs, Option.none_or] at heq
      rw [hrest d heq] at hd
      cases hd
  exact ⟨fun hc heq => h.1 hc (hnone '/' rfl heq), fun hc heq => h.2 hc (hnone '*' rfl heq)⟩

theorem skipComment_cons (h : StandsApart c cs) (depth : Nat) :
    skipComment depth (c :: cs) = skipComment depth cs := by
  rw [skipComment]
  · exact h.not_opening
  · exact fun behind _ => h.not_closing behind
  · exact fun _ behind _ => h.not_closing behind

theorem openers_cons (h : StandsApart c cs) : openers (c :: cs) = openers cs := by
  rw [openers]
  · exact h.not_closing
  · exact h.not_opening

theorem skipComment_ordinary (h : ∀ c ∈ cs, isOrdinary c = true) (depth : Nat) :
    skipComment depth (cs ++ rest) = skipComment depth rest := by
  induction cs with
  | nil => rfl
  | cons c cs ih =>
    obtain ⟨hc, hcs⟩ := List.forall_mem_cons.mp h
    rw [List.cons_append, skipComment_cons (.of_ordinary hc), ih hcs]

theorem openers_ordinary (h : ∀ c ∈ cs, isOrdinary c = true) : openers cs = 0 := by
  induction cs with
  | nil => rfl
  | cons c cs ih =>
    obtain ⟨hc, hcs⟩ := List.forall_mem_cons.mp h
    rw [openers_cons (.of_ordinary hc), ih hcs]

/-- A comment takes at least its closing mark. -/
theorem length_lt_of_skipComment {depth : Nat} (h : skipComment depth cs = some rest) :
    rest.length < cs.length := by
  induction depth, cs using skipComment.induct with
  | case1 depth => cases h
  | case2 cs =>
    cases h
    simp only [List.length_cons]
    omega
  | case3 depth cs ih =>
    have := ih h
    simp only [List.length_cons]
    omega
  | case4 depth cs ih =>
    rw [skipComment] at h
    have := ih h
    simp only [List.length_cons]
    omega
  | case5 depth c cs hzero hsucc hopen ih =>
    have hapart : StandsApart c cs := by
      refine .of_not ?_ hopen
      cases depth with
      | zero => exact fun behind => hzero behind rfl
      | succ depth => exact fun behind => hsucc depth behind rfl
    rw [skipComment_cons hapart] at h
    exact Nat.lt_succ_of_lt (ih h)

/-- Nothing is opened where two texts meet when the second begins with no part of a mark. -/
theorem openers_append (h : ∀ c ∈ rest.head?, isOrdinary c = true) :
    openers (cs ++ rest) = openers cs + openers rest := by
  induction cs using openers.induct with
  | case1 => rw [List.nil_append, openers, Nat.zero_add]
  | case2 cs ih => exact ih
  | case3 cs ih =>
    simp only [List.cons_append, openers] at ih ⊢
    rw [ih, Nat.add_right_comm]
  | case4 c cs hclose hopen ih =>
    have hapart : StandsApart c cs := .of_not hclose hopen
    rw [List.cons_append, openers_cons (hapart.append rfl h), openers_cons hapart, ih]

/-! ### Defused text -/

/-- A text with its closing marks written harmlessly. -/
def defuse (cs : List Char) : List Char :=
  replaceFrom "*/".toList "*&#47;".toList 0 cs

theorem defuse_closing (cs : List Char) :
    defuse ('*' :: '/' :: cs) = '*' :: ("&#47;".toList ++ defuse cs) := rfl

theorem defuse_cons (h : c = '*' → cs.head? ≠ some '/') : defuse (c :: cs) = c :: defuse cs := by
  have hnone : dropFront "*/".toList (c :: cs) = none := by
    cases hdrop : dropFront "*/".toList (c :: cs) with
    | none => rfl
    | some behind =>
      obtain ⟨hc, hcs⟩ := List.cons.inj (dropFront_eq_some hdrop)
      exact (h hc (by rw [hcs]; rfl)).elim
  rw [defuse, replaceFrom, hnone]
  rfl

theorem head?_defuse (cs : List Char) : (defuse cs).head? = cs.head? := by
  cases cs with
  | nil => rfl
  | cons c cs =>
    by_cases h : c = '*' ∧ cs.head? = some '/'
    · obtain ⟨behind, hcs⟩ := List.head?_eq_some_iff.mp h.2
      rw [h.1, hcs, defuse_closing]
      rfl
    · rw [defuse_cons fun hc hcs => h ⟨hc, hcs⟩]
      rfl

/-- A star of a defused text closes nothing. -/
theorem exists_defuse_star (cs : List Char) :
    ∃ ds, defuse ('*' :: cs) = '*' :: ds ∧ ds.head? ≠ some '/' := by
  by_cases h : cs.head? = some '/'
  · obtain ⟨behind, rfl⟩ := List.head?_eq_some_iff.mp h
    exact ⟨_, defuse_closing behind, by simp⟩
  · refine ⟨defuse cs, defuse_cons fun _ => h, ?_⟩
    rwa [head?_defuse]

/-- In a comment a defused text closes nothing and opens what it opens. -/
theorem skipComment_defuse (h : ∀ c ∈ rest.head?, isOrdinary c = true) (depth : Nat) :
    skipComment depth (defuse cs ++ rest) = skipComment (depth + openers cs) rest := by
  induction cs using openers.induct generalizing depth with
  | case1 => rfl
  | case2 cs ih =>
    have hstar : StandsApart '*' ("&#47;".toList ++ defuse cs ++ rest) := ⟨by simp, by simp⟩
    rw [defuse_closing, List.cons_append, skipComment_cons hstar, List.append_assoc,
      skipComment_ordinary (by simp [isOrdinary]), ih, openers]
  | case3 cs ih =>
    -- the star may belong to a closing mark as well, whose form begins with it
    obtain ⟨ds, hds, hhead⟩ := exists_defuse_star cs
    have hstar : StandsApart '*' (ds ++ rest) :=
      StandsApart.append ⟨fun _ => hhead, by simp⟩ rfl h
    have hskip := ih (depth + 1)
    rw [hds, List.cons_append, skipComment_cons hstar] at hskip
    rw [defuse_cons (by simp), hds, List.cons_append, List.cons_append, skipComment, hskip, openers,
      Nat.add_assoc, Nat.add_comm 1]
  | case4 c cs hclose hopen ih =>
    have hapart : StandsApart c cs := .of_not hclose hopen
    rw [defuse_cons hapart.1, List.cons_append,
      skipComment_cons (hapart.append (head?_defuse cs) h), ih, openers_cons hapart]

/-- Each opening mark of the text stands directly behind a star, in the closing mark of that
    star. -/
def OpensNothing (cs : List Char) : Prop :=
  ∀ front behind, cs = front ++ '/' :: '*' :: behind → front.getLast? = some '*'

theorem getLast?_cons_of_some {d : Char} (h : cs.getLast? = some d) :
    (c :: cs).getLast? = some d := by
  rw [List.getLast?_cons, h, Option.getD_some]

theorem openers_eq_zero_iff : openers cs = 0 ↔ OpensNothing cs := by
  induction cs using openers.induct with
  | case1 => simp [openers, OpensNothing]
  | case2 cs ih =>
    rw [openers, ih]
    constructor
    · rintro h (_ | ⟨d, _ | ⟨e, front⟩⟩) behind heq
      · cases heq
      · cases heq
        rfl
      · obtain ⟨rfl, rfl, hcs⟩ : '*' = d ∧ '/' = e ∧ cs = front ++ '/' :: '*' :: behind := by
          simpa using heq
        exact getLast?_cons_of_some (getLast?_cons_of_some (h front behind hcs))
    · intro h front behind hcs
      have hlast := h ('*' :: '/' :: front) behind (by rw [hcs]; rfl)
      cases front with
      | nil => cases hlast
      | cons d front => exact hlast
  | case3 cs ih =>
    refine ⟨fun h => (Nat.succ_ne_zero _ h).elim, fun h => ?_⟩
    cases h [] cs rfl
  | case4 c cs hclose hopen ih =>
    rw [openers_cons (.of_not hclose hopen), ih]
    constructor
    · rintro h (_ | ⟨d, front⟩) behind heq
      · obtain ⟨hc, hcs⟩ := List.cons.inj heq
        exact (hopen behind hc hcs).elim
      · exact getLast?_cons_of_some (h front behind (List.cons.inj heq).2)
    · intro h front behind hcs
      have hlast := h (c :: front) behind (by rw [hcs]; rfl)
      cases front with
      -- a star directly in front would close
      | nil => exact (hclose ('*' :: behind) (Option.some.inj hlast) hcs).elim
      | cons d front => exact hlast

end BlockComments

/-! ### Documentation comments -/

theorem toList_replace_closing (t : String) :
    (replace t "*/" "*&#47;").toList = defuse t.toList := by
  rw [replace, if_neg (by decide), String.toList_ofList, defuse]

theorem isOrdinary_of_isBlankChar {c : Char} (h : isBlankChar c = true) :
    isOrdinary c = true := by
  simp only [isOrdinary, Bool.and_eq_true, bne_iff_ne]
  constructor <;>
  · rintro rfl
    revert h
    decide

theorem eq_blank_of_mem_margin {level : Nat} {c : Char} (h : c ∈ (margin level).toList) :
    c = ' ' := by
  induction level with
  | zero => cases h
  | succ level ih =>
    rw [margin, times, String.toList_append, List.mem_append] at h
    have hblanks : ∀ c ∈ "    ".toList, c = ' ' := by simp
    rcases h with h | h
    · exact hblanks c h
    · exact ih h

theorem skipComment_line (level : Nat) (text : String) (depth : Nat) (rest : List Char) :
    skipComment depth ((line level text).toList ++ rest)
      = skipComment depth (text.toList ++ '\n' :: rest) := by
  have hmargin : ∀ c ∈ (margin level).toList, isOrdinary c = true := by
    intro c hc
    rw [eq_blank_of_mem_margin hc]
    rfl
  have hlist : (line level text).toList ++ rest
      = (margin level).toList ++ (text.toList ++ '\n' :: rest) := by
    simp [line]
  rw [hlist, skipComment_ordinary hmargin]

/-- A line of a documentation comment closes nothing and opens what its text opens. -/
theorem skipComment_docLine (level : Nat) (t : String) (depth : Nat) (rest : List Char) :
    skipComment depth ((docLine level t).toList ++ rest)
      = skipComment (depth + openers t.toList) rest := by
  have hstar : ∀ cs, StandsApart '*' (' ' :: cs) := fun cs => ⟨by simp, by simp⟩
  have hfeed : ∀ depth, skipComment depth ('\n' :: rest) = skipComment depth rest :=
    fun depth => skipComment_cons (.of_ordinary rfl) depth
  have hblank : ∀ depth cs, skipComment depth (' ' :: cs) = skipComment depth cs :=
    fun depth cs => skipComment_cons (.of_ordinary rfl) depth
  unfold docLine
  split
  · rename_i ht
    have hall : ∀ c ∈ t.toList, isOrdinary c = true := fun c hc =>
      isOrdinary_of_isBlankChar (List.all_eq_true.mp ht c hc)
    have hlist : " *".toList ++ '\n' :: rest = ' ' :: '*' :: '\n' :: rest := rfl
    rw [skipComment_line, hlist, hblank, skipComment_cons ⟨by simp, by simp⟩, hfeed,
      openers_ordinary hall, Nat.add_zero]
  · have hlist : (" * " ++ replace t "*/" "*&#47;").toList ++ '\n' :: rest
        = ' ' :: '*' :: ' ' :: (defuse t.toList ++ '\n' :: rest) := by
      rw [String.toList_append, toList_replace_closing, List.append_assoc]
      rfl
    rw [skipComment_line, hlist, hblank, skipComment_cons (hstar _), hblank,
      skipComment_defuse (by simp [isOrdinary]), hfeed]

/-- How many comments lines open together. -/
def openersIn : List String → Nat
  | [] => 0
  | t :: ts => openers t.toList + openersIn ts

theorem openersIn_eq_zero_iff (ts : List String) :
    openersIn ts = 0 ↔ ∀ t ∈ ts, openers t.toList = 0 := by
  induction ts with
  | nil => simp [openersIn]
  | cons t ts ih => rw [openersIn, Nat.add_eq_zero_iff, ih, List.forall_mem_cons]

theorem skipComment_docLines (level : Nat) (ts : List String) (depth : Nat) (rest : List Char) :
    skipComment depth ((String.join (ts.map (docLine level))).toList ++ rest)
      = skipComment (depth + openersIn ts) rest := by
  induction ts generalizing depth with
  | nil => rfl
  | cons t ts ih =>
    rw [List.map_cons, String.join_cons, String.toList_append, List.append_assoc,
      skipComment_docLine, ih, openersIn, Nat.add_assoc]

theorem readComment_margin (level : Nat) (cs : List Char) :
    readComment ((margin level).toList ++ cs) = readComment cs := by
  have hblanks : ∀ {front : List Char}, (∀ c ∈ front, c = ' ') →
      readComment (front ++ cs) = readComment cs := by
    intro front hfront
    induction front with
    | nil => rfl
    | cons c front ih =>
      obtain ⟨rfl, htail⟩ := List.forall_mem_cons.mp hfront
      exact ih htail
  exact hblanks fun c hc => eq_blank_of_mem_margin hc

/-- The comment is closed at its own end by as many marks as were opened, less one. -/
theorem readComment_docText (level : Nat) (doc : String) (rest : List Char) :
    readComment ((docText level (some doc)).toList ++ rest)
      = skipComment (openersIn (lines (trimEnd doc))) ('*' :: '/' :: '\n' :: rest) := by
  have hlist : (docText level (some doc)).toList ++ rest
      = (margin level).toList ++ '/' :: '*' :: '*' :: '\n' ::
        ((String.join ((lines (trimEnd doc)).map (docLine level))).toList
          ++ ((line level " */").toList ++ rest)) := by
    simp [docText, line]
  have hlast : " */".toList ++ '\n' :: rest = ' ' :: '*' :: '/' :: '\n' :: rest := rfl
  rw [hlist, readComment_margin, readComment, skipComment_cons ⟨by simp, by simp⟩,
    skipComment_cons (.of_ordinary rfl), skipComment_docLines, skipComment_line, hlast,
    skipComment_cons (.of_ordinary rfl), Nat.zero_add]

theorem exists_toList_trimEnd (s : String) :
    ∃ blanks, s.toList = (trimEnd s).toList ++ blanks ∧ ∀ c ∈ blanks, isBlankChar c = true := by
  refine ⟨(s.toList.reverse.takeWhile isBlankChar).reverse, ?_,
    fun c hc => List.mem_takeWhile_imp (List.mem_reverse.mp hc)⟩
  rw [trimEnd, String.toList_ofList, ← List.reverse_append, List.takeWhile_append_dropWhile,
    List.reverse_reverse]

/-- Cutting at line breaks and trimming open nothing and hide no mark. -/
theorem openersIn_lines (doc : String) :
    openersIn (lines (trimEnd doc)) = 0 ↔ OpensNothing doc.toList := by
  have hfeed : ∀ a b, openers (a ++ '\n' :: b) = 0 ↔ openers a = 0 ∧ openers b = 0 := by
    intro a b
    rw [openers_append (by simp [isOrdinary]), openers_cons (.of_ordinary rfl),
      Nat.add_eq_zero_iff]
  have hreturn : ∀ a, openers (a ++ ['\r']) = 0 ↔ openers a = 0 := by
    intro a
    have hnone : openers ['\r'] = 0 := rfl
    rw [openers_append (by simp [isOrdinary]), hnone, Nat.add_zero]
  obtain ⟨blanks, hdoc, hblanks⟩ := exists_toList_trimEnd doc
  have hordinary : ∀ c ∈ blanks, isOrdinary c = true :=
    fun c hc => isOrdinary_of_isBlankChar (hblanks c hc)
  have htrim : openers doc.toList = openers (trimEnd doc).toList := by
    rw [hdoc, openers_append fun c hc => hordinary c (List.mem_of_mem_head? hc),
      openers_ordinary hordinary, Nat.add_zero]
  have hlines := forall_mem_lineChars (P := fun cs => openers cs = 0) rfl hfeed hreturn
    (trimEnd doc).toList
  rw [← openers_eq_zero_iff, htrim, ← hlines, openersIn_eq_zero_iff]
  simp [lines]

/-- A documentation comment ends at its own last line exactly if its text opens nothing. -/
theorem readComment_docText_iff (level : Nat) (doc : String) (rest : List Char) :
    readComment ((docText level (some doc)).toList ++ rest) = some ('\n' :: rest)
      ↔ OpensNothing doc.toList := by
  rw [readComment_docText, ← openersIn_lines]
  cases openersIn (lines (trimEnd doc)) with
  | zero => exact iff_of_true rfl rfl
  | succ depth =>
    refine iff_of_false (fun h => ?_) (Nat.succ_ne_zero depth)
    rw [skipComment] at h
    exact Nat.lt_irrefl _ (length_lt_of_skipComment h)

/-! ### Line comments -/

/-- The character opens a line comment in front of the text. -/
def opensLine (c : Char) (cs : List Char) : Bool :=
  c == '/' && cs.head? == some '/'

/-- What stands outside the line comments of a text, in or behind a comment at first; the ends
    of lines stand on neither side. -/
def outside : Bool → List Char → List Char
  | _, [] => []
  | true, c :: cs => outside (!isLineBreak c) cs
  | false, c :: cs =>
    if isLineBreak c then outside false cs
    else if opensLine c cs then outside true cs
    else c :: outside false cs

/-- At its front the text ends, ends a line or opens a line comment. -/
def isCovered : List Char → Bool
  | [] => true
  | c :: cs => isLineBreak c || opensLine c cs

/-- What stands behind a carriage return does not have to be hidden. -/
def ReturnsCovered (cs : List Char) : Prop :=
  ∀ behind, '\r' :: behind <:+ cs → isCovered behind = true

section LineComments

variable {c d : Char} {cs rest : List Char}

theorem returnsCovered_nil : ReturnsCovered [] := by
  intro behind h
  cases List.suffix_nil.mp h

theorem returnsCovered_cons :
    ReturnsCovered (c :: cs) ↔ (c = '\r' → isCovered cs = true) ∧ ReturnsCovered cs := by
  constructor
  · intro h
    refine ⟨?_, fun behind hbehind => h behind (hbehind.trans (List.suffix_cons c cs))⟩
    rintro rfl
    exact h cs (List.suffix_refl _)
  · rintro ⟨hc, hcs⟩ behind hbehind
    rcases List.suffix_cons_iff.mp hbehind with heq | hbehind
    · cases heq
      exact hc rfl
    · exact hcs behind hbehind

theorem eq_of_isLineBreak (h : isLineBreak c = true) : c = '\n' ∨ c = '\r' := by
  rwa [isLineBreak, Bool.or_eq_true, beq_iff_eq, beq_iff_eq] at h

/-- The end of a line is no part of the mark of a comment. -/
theorem opensLine_append_break (hd : isLineBreak d = true) :
    opensLine c (cs ++ d :: rest) = opensLine c cs := by
  cases cs with
  | cons e cs => rfl
  | nil => rcases eq_of_isLineBreak hd with rfl | rfl <;> rfl

theorem isCovered_append_break (hd : isLineBreak d = true) :
    isCovered (cs ++ d :: rest) = isCovered cs := by
  cases cs with
  | nil => rw [List.nil_append, isCovered, isCovered, hd, Bool.true_or]
  | cons c cs => rw [List.cons_append, isCovered, isCovered, opensLine_append_break hd]

theorem returnsCovered_append_break (hd : isLineBreak d = true) :
    ReturnsCovered (cs ++ d :: rest) ↔ ReturnsCovered cs ∧ ReturnsCovered (d :: rest) := by
  induction cs with
  | nil => simp [returnsCovered_nil]
  | cons c cs ih =>
    rw [List.cons_append, returnsCovered_cons, returnsCovered_cons, ih,
      isCovered_append_break hd, and_assoc]

theorem outside_append_feed (inside : Bool) :
    outside inside (cs ++ '\n' :: rest) = outside inside cs ++ outside false rest := by
  induction inside, cs using outside.induct with
  | case1 inside => cases inside <;> rfl
  | case2 c cs ih => rw [List.cons_append, outside, ih, outside]
  | case3 c cs hc ih => rw [List.cons_append, outside, if_pos hc, ih, outside, if_pos hc]
  | case4 c cs hc hopen ih =>
    rw [List.cons_append, outside, opensLine_append_break rfl, if_neg hc, if_pos hopen, ih, outside,
      if_neg hc, if_pos hopen]
  | case5 c cs hc hopen ih =>
    rw [List.cons_append, outside, opensLine_append_break rfl, if_neg hc, if_neg hopen, ih, outside,
      if_neg hc, if_neg hopen, List.cons_append]

theorem returnsCovered_cons_of_not_mem (h : '\n' ∉ c :: cs) :
    ReturnsCovered (c :: cs)
      ↔ (isLineBreak c = true → isCovered cs = true) ∧ ReturnsCovered cs := by
  have hc : c ≠ '\n' := (List.ne_of_not_mem_cons h).symm
  have hbreak : isLineBreak c = true ↔ c = '\r' := by simp [isLineBreak, hc]
  rw [returnsCovered_cons, hbreak]

/-- Begun in a comment or covered, a line stays in comments exactly if its carriage returns
    are covered. -/
theorem outside_eq_nil_iff (h : '\n' ∉ cs) (inside : Bool) :
    outside inside cs = [] ↔ (inside = true ∨ isCovered cs = true) ∧ ReturnsCovered cs := by
  induction inside, cs using outside.induct with
  | case1 inside => cases inside <;> simp [outside, isCovered, returnsCovered_nil]
  | case2 c cs ih =>
    have hrest : _ ↔ _ := ih (List.not_mem_of_not_mem_cons h)
    rw [outside, hrest, returnsCovered_cons_of_not_mem h]
    cases isLineBreak c <;> simp
  | case3 c cs hc ih =>
    have hrest : _ ↔ _ := ih (List.not_mem_of_not_mem_cons h)
    rw [outside, if_pos hc, hrest, returnsCovered_cons_of_not_mem h]
    simp [isCovered, hc]
  | case4 c cs hc hopen ih =>
    have hrest : _ ↔ _ := ih (List.not_mem_of_not_mem_cons h)
    rw [outside, if_neg hc, if_pos hopen, hrest, returnsCovered_cons_of_not_mem h]
    simp [isCovered, hc, hopen]
  | case5 c cs hc hopen ih =>
    rw [outside, if_neg hc, if_neg hopen]
    simp [isCovered, hc, hopen]

theorem outside_commentLine (t : String) (rest : List Char) :
    outside false ((commentLine t).toList ++ rest)
      = outside true t.toList ++ outside false rest := by
  unfold commentLine
  split
  · rename_i ht
    rw [String.isEmpty_iff.mp ht]
    rfl
  · have hlist : ("// " ++ t ++ "\n").toList ++ rest
        = '/' :: '/' :: ' ' :: (t.toList ++ '\n' :: rest) := by
      simp
    rw [hlist, ← outside_append_feed]
    rfl

theorem outside_commentLines (ts : List String) (rest : List Char) :
    outside false ((String.join (ts.map commentLine)).toList ++ rest)
      = ts.flatMap (fun t => outside true t.toList) ++ outside false rest := by
  induction ts with
  | nil => rfl
  | cons t ts ih =>
    rw [List.map_cons, String.join_cons, String.toList_append, List.append_assoc,
      outside_commentLine, ih, List.flatMap_cons, List.append_assoc]

/-- The comment on top of a file hides all of its text exactly if its carriage returns are
    covered. -/
theorem outside_commentSection_iff (comment : String) :
    (∀ rest, outside false
        ((String.join ((lines (trimEnd comment)).map commentLine)).toList ++ rest)
      = outside false rest) ↔ ReturnsCovered (trimEnd comment).toList := by
  have hfeed : ∀ a b, ReturnsCovered (a ++ '\n' :: b) ↔ ReturnsCovered a ∧ ReturnsCovered b := by
    intro a b
    rw [returnsCovered_append_break rfl, returnsCovered_cons]
    simp
  have hreturn : ∀ a, ReturnsCovered (a ++ ['\r']) ↔ ReturnsCovered a := by
    intro a
    rw [returnsCovered_append_break rfl, returnsCovered_cons]
    simp [isCovered, returnsCovered_nil]
  have hline : ∀ l ∈ lineChars (trimEnd comment).toList,
      (outside true l = [] ↔ ReturnsCovered l) := by
    intro l hl
    rw [outside_eq_nil_iff (feed_not_mem_of_mem_lineChars hl)]
    simp
  rw [← forall_mem_lineChars returnsCovered_nil hfeed hreturn, ← forall₂_congr hline]
  simp only [outside_commentLines, List.append_left_eq_self, List.flatMap_eq_nil_iff, lines,
    List.forall_mem_map, String.toList_ofList, forall_const]

theorem returnsCovered_of_not_mem (h : '\r' ∉ cs) : ReturnsCovered cs := by
  intro behind hbehind
  exact (h (hbehind.subset List.mem_cons_self)).elim

end LineComments

/-! ### Classes, functions and files -/

theorem Class.toList_text (c : Class) (doc : Option String) (rest : List Char) :
    { c with doc := doc }.text.toList ++ rest
      = (docText 0 doc).toList ++ ({ c with doc := none }.text.toList ++ rest) := by
  simp [Class.text, Class.headText, Class.constructorText, docText]

theorem Function.toList_text (level : Nat) (f : Function) (doc : Option String)
    (rest : List Char) :
    ({ f with doc := doc }.text level).toList ++ rest
      = (docText level doc).toList ++ (({ f with doc := none }.text level).toList ++ rest) := by
  simp [Function.text, Function.headText, docText]

theorem toList_trimEnd_of_isBlank {s : String} (h : isBlank s = true) :
    (trimEnd s).toList = [] := by
  have hall : ∀ c ∈ s.toList.reverse, isBlankChar c = true :=
    fun c hc => List.all_eq_true.mp h c (List.mem_reverse.mp hc)
  rw [trimEnd, String.toList_ofList, dropWhile_blank_eq_nil hall, List.reverse_nil]

theorem returnsCovered_comment_iff (header : String) :
    ReturnsCovered (trimEnd (if isBlank header then defaultFileComment else header)).toList
      ↔ ReturnsCovered (trimEnd header).toList := by
  cases hblank : isBlank header with
  | false => exact Iff.rfl
  | true =>
    have hdefault : '\r' ∉ (trimEnd defaultFileComment).toList := by decide
    rw [if_pos rfl, toList_trimEnd_of_isBlank hblank]
    exact iff_of_true (returnsCovered_of_not_mem hdefault) returnsCovered_nil

/-- The documentation comment of a class or a function ends at its own last line, whatever
    stands behind it, exactly if each opening mark in its text stands directly behind a star.
    The comment on top of a file keeps to itself, whatever stands behind it, exactly if each
    carriage return in the header, blanks at its end apart, stands in front of the end of a
    line or of a line comment. -/
theorem comments_enclose_iff (c : Class) (f : Function) (level : Nat) (doc : String)
    (m : InterfaceModel) (package : String) (imports : List String) (classes : List Class)
    (functions : List Function) :
    (∀ rest, readComment ({ c with doc := some doc }.text.toList ++ rest)
          = some ('\n' :: ({ c with doc := none }.text.toList ++ rest))
        ↔ OpensNothing doc.toList)
      ∧ (∀ rest, readComment (({ f with doc := some doc }.text level).toList ++ rest)
          = some ('\n' :: (({ f with doc := none }.text level).toList ++ rest))
        ↔ OpensNothing doc.toList)
      ∧ ∃ header : String,
        commentSection (fileOf m package imports classes functions).comment = [header]
          ∧ ((∀ rest, outside false (header.toList ++ rest) = outside false rest)
            ↔ ReturnsCovered (trimEnd m.options.customFileHeader).toList) := by
  refine ⟨fun rest => ?_, fun rest => ?_, _, rfl, ?_⟩
  · rw [Class.toList_text, readComment_docText_iff]
  · rw [Function.toList_text, readComment_docText_iff]
  · rw [outside_commentSection_iff, returnsCovered_comment_iff]

/-- A mark that opens a comment swallows the class behind the documentation, and text behind a
    carriage return of a header is code. -/
theorem openers_and_returns_escape :
    readComment ({ (default : Class) with doc := some "a /* b", name := "Api" }.text.toList) = none
      ∧ (commentSection (some "a\rb")).map (fun header => outside false header.toList)
        = [['b']] := by
  decide +kernel

end ClientGen.Code
