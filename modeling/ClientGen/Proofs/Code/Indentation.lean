/-
  ClientGen/Proofs/Code/Indentation.lean
  ======================================
  **Written code moves as a whole.**

  Statements, blocks and functions are written with a margin at every place that starts a
  line.  Code at a level is the same code at level zero with the blanks of the level in front
  of every line that is not empty (`indentation_commutes`), as long as the texts in it do not
  break lines; documentation and raw code may be any text.

  A text that depends on a level `Moves` when it consists of fixed lines that are written at
  that level.  Every rule about `Moves` is about one way in which the printer puts texts
  together.
-/
import ClientGen.Proofs.Code.Comments

namespace ClientGen.Code

open ClientGen.Text

/-! ### Lines -/

/-- The text with four blanks for each level in front of every line that is not empty.  A line
    ends at a line feed. -/
def indented (level : Nat) (text : String) : String :=
  join "\n" ((splitOn '\n' text).map fun l =>
    if l.isEmpty then l else String.ofList (List.replicate (4 * level) ' ') ++ l)

/-- The text does not break the line it stands on. -/
def OnOneLine (text : String) : Prop :=
  '\n' ∉ text.toList

instance (text : String) : Decidable (OnOneLine text) :=
  inferInstanceAs (Decidable (¬ _))

theorem onOneLine_append {a b : String} : OnOneLine (a ++ b) ↔ OnOneLine a ∧ OnOneLine b := by
  simp [OnOneLine, not_or]

theorem onOneLine_words {ws : List String} (h : ∀ w ∈ ws, OnOneLine w) :
    OnOneLine (words ws) := by
  induction ws with
  | nil => decide
  | cons w ws ih =>
    obtain ⟨hw, hws⟩ := List.forall_mem_cons.mp h
    rw [words, List.map_cons, String.join_cons, onOneLine_append, onOneLine_append]
    exact ⟨⟨hw, by decide⟩, ih hws⟩

theorem onOneLine_join {sep : String} (hsep : OnOneLine sep) {ts : List String}
    (h : ∀ t ∈ ts, OnOneLine t) : OnOneLine (join sep ts) := by
  induction ts with
  | nil => exact (by decide : OnOneLine "")
  | cons t ts ih =>
    obtain ⟨ht, hts⟩ := List.forall_mem_cons.mp h
    cases ts with
    | nil => exact ht
    | cons u ts =>
      rw [join_cons sep t (List.cons_ne_nil u ts), onOneLine_append, onOneLine_append]
      exact ⟨⟨ht, hsep⟩, ih hts⟩

theorem onOneLine_of_mem_lines {text l : String} (h : l ∈ lines text) : OnOneLine l := by
  obtain ⟨cs, hcs, rfl⟩ := List.mem_map.mp h
  rw [OnOneLine, String.toList_ofList]
  exact feed_not_mem_of_mem_lineChars hcs

theorem margin_eq (level : Nat) : margin level = String.ofList (List.replicate (4 * level) ' ') := by
  induction level with
  | zero => rfl
  | succ level ih =>
    have hmargin : margin (level + 1) = "    " ++ margin level := rfl
    rw [hmargin, ih, Nat.mul_succ, Nat.add_comm, ← List.replicate_append_replicate,
      String.ofList_append]
    rfl

/-- An empty line has no margin at any level. -/
theorem rawLine_eq (level : Nat) (l : String) :
    rawLine level l = (if l.isEmpty then l else margin level ++ l) ++ "\n" := by
  by_cases hl : l = ""
  · subst hl
    rfl
  · have hempty : ¬ l.isEmpty = true := by simpa using hl
    rw [rawLine, if_neg hempty, if_neg hempty, line]

theorem rawLine_zero (l : String) : rawLine 0 l = l ++ "\n" := by
  have hmargin : margin 0 ++ l = l := String.empty_append
  rw [rawLine_eq, hmargin, ite_self]

/-- One level more is four blanks in the line itself, which is how lines move. -/
theorem rawLine_succ (level : Nat) (l : String) :
    rawLine (level + 1) l = rawLine level (if l.isEmpty then l else "    " ++ l) := by
  by_cases hl : l = ""
  · subst hl
    rfl
  · have hempty : ¬ l.isEmpty = true := by simpa using hl
    have hmargin : margin (level + 1) = margin level ++ "    " := by
      rw [margin_eq, margin_eq, Nat.mul_succ, ← List.replicate_append_replicate,
        String.ofList_append]
      rfl
    have hdeeper : ¬ ("    " ++ l).isEmpty = true := by simp
    rw [if_neg hempty, rawLine, if_neg hempty, rawLine, if_neg hdeeper, line, line, hmargin]
    simp only [String.append_assoc]

/-- Lines that are each ended by a line feed are found again, with nothing behind the last. -/
theorem splitOn_lines {ls : List String} (h : ∀ l ∈ ls, OnOneLine l) :
    splitOn '\n' (String.join (ls.map (· ++ "\n"))) = ls ++ [""] := by
  induction ls with
  | nil => rfl
  | cons l ls ih =>
    obtain ⟨hl, hls⟩ := List.forall_mem_cons.mp h
    have hcut : splitOn '\n' (l ++ "\n" ++ String.join (ls.map (· ++ "\n")))
        = splitOn '\n' l ++ splitOn '\n' (String.join (ls.map (· ++ "\n"))) :=
      splitOn_append '\n' l _
    rw [List.map_cons, String.join_cons, hcut, splitOn_of_not_mem hl, ih hls]
    rfl

theorem join_lines (ls : List String) :
    join "\n" (ls ++ [""]) = String.join (ls.map (· ++ "\n")) := by
  induction ls with
  | nil => rfl
  | cons l ls ih =>
    have hrest : ls ++ [""] ≠ [] := List.append_ne_nil_of_right_ne_nil ls (List.cons_ne_nil "" [])
    rw [List.cons_append, join_cons "\n" l hrest, ih, List.map_cons, String.join_cons]

/-! ### Texts that move -/

/-- The text consists of the same lines at every level. -/
def Moves (text : Nat → String) : Prop :=
  ∃ ls : List String, (∀ l ∈ ls, OnOneLine l)
    ∧ ∀ level, text level = String.join (ls.map (rawLine level))

namespace Moves

variable {text more : Nat → String}

theorem nil : Moves fun _ => "" :=
  ⟨[], List.forall_mem_nil _, fun _ => rfl⟩

theorem rawLine {l : String} (h : OnOneLine l) : Moves fun level => Code.rawLine level l :=
  ⟨[l], List.forall_mem_singleton.mpr h, fun level => by simp⟩

theorem line {l : String} (h : OnOneLine l) (hl : l ≠ "") :
    Moves fun level => Code.line level l := by
  have hraw : ∀ level, Code.rawLine level l = Code.line level l := by
    intro level
    rw [Code.rawLine, if_neg (by simpa using hl)]
  simpa only [hraw] using Moves.rawLine h

theorem append (h : Moves text) (hmore : Moves more) :
    Moves fun level => text level ++ more level := by
  obtain ⟨ls, hls, htext⟩ := h
  obtain ⟨ms, hms, hmores⟩ := hmore
  refine ⟨ls ++ ms, List.forall_mem_append.mpr ⟨hls, hms⟩, fun level => ?_⟩
  simp only [htext, hmores, List.map_append, String.join_append]

theorem joined {α : Type} {xs : List α} {texts : Nat → α → String}
    (h : ∀ x ∈ xs, Moves fun level => texts level x) :
    Moves fun level => String.join (xs.map (texts level)) := by
  induction xs with
  | nil => exact nil
  | cons x xs ih =>
    obtain ⟨hx, hxs⟩ := List.forall_mem_cons.mp h
    simpa only [List.map_cons, String.join_cons] using hx.append (ih hxs)

/-- One level deeper every line has four more blanks, unless it is empty. -/
theorem deeper (h : Moves text) : Moves fun level => text (level + 1) := by
  obtain ⟨ls, hls, htext⟩ := h
  refine ⟨ls.map fun l => if l.isEmpty then l else "    " ++ l, ?_, fun level => ?_⟩
  · rw [List.forall_mem_map]
    intro l hl
    split
    · exact hls l hl
    · exact onOneLine_append.mpr ⟨by decide, hls l hl⟩
  · simp only [htext, List.map_map]
    congr 1
    exact List.map_congr_left fun l _ => rawLine_succ level l

/-- What moves is what it is at level zero, indented. -/
theorem eq_indented (h : Moves text) (level : Nat) : text level = indented level (text 0) := by
  obtain ⟨ls, hls, htext⟩ := h
  have hzero : text 0 = String.join (ls.map (· ++ "\n")) := by
    rw [htext]
    congr 1
    exact List.map_congr_left fun l _ => rawLine_zero l
  have hlines : String.join (ls.map (Code.rawLine level)) = String.join
      ((ls.map fun l => if l.isEmpty then l else margin level ++ l).map (· ++ "\n")) := by
    rw [List.map_map]
    congr 1
    exact List.map_congr_left fun l _ => rawLine_eq level l
  rw [hzero, indented, splitOn_lines hls, ← margin_eq, List.map_append, htext, hlines,
    ← join_lines]
  rfl

end Moves

/-! ### Parts of functions -/

theorem moves_annotationLines {annotations : List String}
    (h : ∀ a ∈ annotations, OnOneLine a ∧ a ≠ "") :
    Moves fun level => annotationLines level annotations :=
  .joined fun a ha => .line (h a ha).1 (h a ha).2

theorem onOneLine_replace_closing {l : String} (h : OnOneLine l) :
    OnOneLine (replace l "*/" "*&#47;") := by
  rw [OnOneLine, toList_replace_closing, defuse]
  intro hfeed
  rcases mem_of_mem_replaceFrom hfeed with hform | hl
  · exact absurd hform (by decide)
  · exact h hl

theorem moves_docLine {l : String} (h : OnOneLine l) : Moves fun level => docLine level l := by
  have htext : OnOneLine (" * " ++ replace l "*/" "*&#47;") :=
    onOneLine_append.mpr ⟨by decide, onOneLine_replace_closing h⟩
  unfold docLine
  split
  · exact .line (by decide) (by decide)
  · exact .line htext (by simp)

/-- A comment is cut into lines before it is written, so its own line feeds move as well. -/
theorem moves_docText (doc : Option String) : Moves fun level => docText level doc := by
  cases doc with
  | none => exact .nil
  | some doc =>
    have hlines : Moves fun level => String.join ((lines (trimEnd doc)).map (docLine level)) :=
      .joined fun l hl => moves_docLine (onOneLine_of_mem_lines hl)
    exact ((Moves.line (by decide) (by decide)).append hlines).append
      (.line (by decide) (by decide))

/-- The texts of the parameter do not break lines. -/
structure Param.WithinLines (p : Param) : Prop where
  annotations : ∀ a ∈ p.annotations, OnOneLine a
  property : ∀ w ∈ p.property, OnOneLine w
  name : OnOneLine p.name
  type : OnOneLine p.type

theorem Param.WithinLines.text {p : Param} (h : p.WithinLines) : OnOneLine p.text := by
  have hproperty : ∀ w ∈ p.property.toList, OnOneLine w := fun w hw =>
    h.property w (Option.mem_toList.mp hw)
  have hvararg : OnOneLine (if p.isVararg then "vararg " else "") := by
    split <;> decide
  simp only [Param.text, onOneLine_append]
  exact ⟨⟨⟨⟨⟨onOneLine_words h.annotations, onOneLine_words hproperty⟩, hvararg⟩, h.name⟩,
    by decide⟩, h.type⟩

/-- Parameters on lines of their own divide the line that they stand in: it ends behind the opening
    bracket, and the closing one starts another. -/
theorem moves_paramsText {front back : String} {params : List Param} (hfront : OnOneLine front)
    (hback : OnOneLine back) (hparams : ∀ p ∈ params, p.WithinLines) :
    Moves fun level => line level (front ++ paramsText level params ++ back) := by
  unfold paramsText
  simp only
  split
  · have hinline : OnOneLine (join ", " (params.map Param.text)) :=
      onOneLine_join (by decide) (List.forall_mem_map.mpr fun p hp => (hparams p hp).text)
    refine .line ?_ (by simp)
    simp only [onOneLine_append]
    exact ⟨⟨hfront, ⟨by decide, hinline⟩, by decide⟩, hback⟩
  · have hopen : Moves fun level => line level (front ++ "(") :=
      .line (onOneLine_append.mpr ⟨hfront, by decide⟩) (by simp)
    have hclose : Moves fun level => line level (")" ++ back) :=
      .line (onOneLine_append.mpr ⟨by decide, hback⟩) (by simp)
    have hline : ∀ p ∈ params, Moves fun level => line level (p.text ++ ",") := fun p hp =>
      .line (onOneLine_append.mpr ⟨(hparams p hp).text, by decide⟩) (by simp)
    have hlines : Moves fun level =>
        String.join (params.map fun p => line (level + 1) (p.text ++ ",")) :=
      .joined fun p hp => (hline p hp).deeper
    have hdivide : ∀ level, line level (front ++ "(")
        ++ String.join (params.map fun p => line (level + 1) (p.text ++ ","))
        ++ line level (")" ++ back)
        = line level (front ++ ("(\n" ++ String.join
            (params.map fun p => line (level + 1) (p.text ++ ",")) ++ margin level ++ ")")
          ++ back) := by
      intro level
      simp [← String.toList_inj, line]
    simpa only [hdivide] using (hopen.append hlines).append hclose

/-! ### Statements -/

mutual
/-- The texts of the statement do not break lines; raw code is cut into lines. -/
def Statement.WithinLines : Statement → Prop
  | .value name init => OnOneLine name ∧ OnOneLine init
  | .expression code => OnOneLine code ∧ code ≠ ""
  | .returning value => ∀ v ∈ value, OnOneLine v
  | .block b => b.WithinLines
  | .raw _ => True

def Block.WithinLines : Block → Prop
  | ⟨opening, parameters, body, branches, closing⟩ =>
    OnOneLine opening ∧ (∀ ps ∈ parameters, OnOneLine ps) ∧ Statement.AllWithinLines body
      ∧ Branch.AllWithinLines branches ∧ OnOneLine closing

def Branch.AllWithinLines : List Branch → Prop
  | [] => True
  | b :: bs => b.WithinLines ∧ Branch.AllWithinLines bs

def Branch.WithinLines : Branch → Prop
  | ⟨label, body⟩ => OnOneLine label ∧ Statement.AllWithinLines body

def Statement.AllWithinLines : List Statement → Prop
  | [] => True
  | s :: ss => s.WithinLines ∧ Statement.AllWithinLines ss
end

theorem onOneLine_openingText {opening : String} {parameters : Option String}
    (hopening : OnOneLine opening) (hparameters : ∀ ps ∈ parameters, OnOneLine ps) :
    OnOneLine (openingText opening parameters) := by
  unfold openingText
  rw [onOneLine_append]
  constructor
  · split
    · decide
    · exact onOneLine_append.mpr ⟨hopening, by decide⟩
  · cases parameters with
    | none => decide
    | some ps =>
      simp only [onOneLine_append]
      exact ⟨⟨by decide, hparameters ps rfl⟩, by decide⟩

theorem openingText_ne_empty (opening : String) (parameters : Option String) :
    openingText opening parameters ≠ "" := by
  unfold openingText
  split <;> simp

-- One case for each constructor: what a statement, a block or a branch writes itself are lines,
-- and what stands in its bodies is one level deeper.
mutual
/-- Each body stands one level deeper than the line that opens it. -/
theorem Statement.moves : ∀ s : Statement, s.WithinLines → Moves fun level => s.text level
  | .value name init, ⟨hname, hinit⟩ => by
    refine .line ?_ (by simp)
    simp only [onOneLine_append]
    exact ⟨⟨⟨by decide, hname⟩, by decide⟩, hinit⟩
  | .expression code, ⟨hcode, hne⟩ => .line hcode hne
  | .returning none, _ => .line (by decide) (by decide)
  | .returning (some value), h =>
    .line (onOneLine_append.mpr ⟨by decide, h value rfl⟩) (by simp)
  | .block b, h => b.moves h
  | .raw _, _ => .joined fun _ hl => .rawLine (onOneLine_of_mem_lines hl)

theorem Block.moves : ∀ b : Block, b.WithinLines → Moves fun level => b.text level
  | ⟨opening, parameters, body, branches, closing⟩,
      ⟨hopening, hparameters, hbody, hbranches, hclosing⟩ =>
    have hopen := Moves.line (onOneLine_openingText hopening hparameters)
      (openingText_ne_empty opening parameters)
    have hclose := Moves.line (onOneLine_append.mpr ⟨(by decide : OnOneLine "\x7d"), hclosing⟩)
      (by simp)
    ((hopen.append (Statement.texts_move body hbody).deeper).append
      (Branch.texts_move branches hbranches)).append hclose

theorem Branch.texts_move : ∀ bs : List Branch, Branch.AllWithinLines bs →
    Moves fun level => Branch.texts level bs
  | [], _ => .nil
  | b :: bs, ⟨hb, hbs⟩ => (b.moves hb).append (Branch.texts_move bs hbs)

theorem Branch.moves : ∀ b : Branch, b.WithinLines → Moves fun level => b.text level
  | ⟨label, body⟩, ⟨hlabel, hbody⟩ => by
    refine .append (.line ?_ (by simp)) (Statement.texts_move body hbody).deeper
    simp only [onOneLine_append]
    exact ⟨⟨by decide, hlabel⟩, by decide⟩

theorem Statement.texts_move : ∀ ss : List Statement, Statement.AllWithinLines ss →
    Moves fun level => Statement.texts level ss
  | [], _ => .nil
  | s :: ss, ⟨hs, hss⟩ => (s.moves hs).append (Statement.texts_move ss hss)
end

/-! ### Functions -/

/-- The texts of the function do not break lines; its documentation is cut into lines. -/
structure Function.WithinLines (f : Function) : Prop where
  annotations : ∀ a ∈ f.annotations, OnOneLine a ∧ a ≠ ""
  modifiers : ∀ w ∈ f.modifiers, OnOneLine w
  receiver : ∀ r ∈ f.receiver, OnOneLine r
  name : OnOneLine f.name
  params : ∀ p ∈ f.params, p.WithinLines
  returnType : ∀ t ∈ f.returnType, OnOneLine t
  body : Statement.AllWithinLines f.body

def Function.front (f : Function) : String :=
  words f.modifiers ++ "fun " ++ (f.receiver.map (· ++ ".")).getD "" ++ f.name

def Function.back (f : Function) : String :=
  (f.returnType.map (": " ++ ·)).getD "" ++ " \x7b"

theorem Function.headText_eq (f : Function) (level : Nat) :
    f.headText level = f.front ++ paramsText level f.params ++ f.back := by
  unfold headText front back
  cases f.receiver <;> cases f.returnType <;> simp [String.append_assoc]

theorem Function.WithinLines.front {f : Function} (h : f.WithinLines) : OnOneLine f.front := by
  have hreceiver : OnOneLine ((f.receiver.map (· ++ ".")).getD "") := by
    cases hr : f.receiver with
    | none => decide
    | some r => exact onOneLine_append.mpr ⟨h.receiver r hr, by decide⟩
  simp only [Function.front, onOneLine_append]
  exact ⟨⟨⟨onOneLine_words h.modifiers, by decide⟩, hreceiver⟩, h.name⟩

theorem Function.WithinLines.back {f : Function} (h : f.WithinLines) : OnOneLine f.back := by
  refine onOneLine_append.mpr ⟨?_, by decide⟩
  cases ht : f.returnType with
  | none => decide
  | some t => exact onOneLine_append.mpr ⟨by decide, h.returnType t ht⟩

theorem Function.moves (f : Function) (h : f.WithinLines) : Moves fun level => f.text level := by
  have hhead : Moves fun level => line level (f.headText level) := by
    simpa only [f.headText_eq] using moves_paramsText h.front h.back h.params
  exact ((((moves_docText f.doc).append (moves_annotationLines h.annotations)).append hhead).append
    (Statement.texts_move f.body h.body).deeper).append (.line (by decide) (by decide))

/-! ### Code at a level -/

/-- Code at a level is the code at level zero, indented: every line of it that is not empty has
    four more blanks in front for each level. -/
theorem indentation_commutes (level : Nat) :
    (∀ s : Statement, s.WithinLines → s.text level = indented level (s.text 0))
      ∧ (∀ b : Block, b.WithinLines → b.text level = indented level (b.text 0))
      ∧ ∀ f : Function, f.WithinLines → f.text level = indented level (f.text 0) :=
  ⟨fun s h => (s.moves h).eq_indented level, fun b h => (b.moves h).eq_indented level,
    fun f h => (f.moves h).eq_indented level⟩

def Block.spaced : Block :=
  (Block.plain "" [.raw "first()\n\nsecond()", .returning none]).branch "finally"
    [.expression "close()"]

/-- A function with a comment, an annotation and more parameters than stand on one line. -/
def Function.spaced : Function where
  doc := some "Gets a user.\n\nThe answer is never empty.\n"
  annotations := ["@Deprecated"]
  modifiers := ["public", "override"]
  receiver := none
  name := "getUser"
  params := [.plain "identifierOfTheUser" "kotlin.String", .plain "versionOfTheUser" "kotlin.Long",
    .plain "withHistory" "kotlin.Boolean"]
  returnType := some "User"
  body := [.block (.spaced)]

/-- Empty lines of comments and of raw code stay as they are, wherever they are nested. -/
theorem indentation_commutes_spaced :
    (Statement.block .spaced).WithinLines ∧ Block.spaced.WithinLines
      ∧ Function.spaced.WithinLines
      ∧ Block.spaced.text 2 = indented 2 (Block.spaced.text 0)
      ∧ Block.spaced.text 2
        = "        \x7b\n            first()\n\n            second()\n            return\n"
          ++ "        \x7d finally \x7b\n            close()\n        \x7d\n"
      ∧ Statement.text 2 (.block .spaced) = indented 2 (Statement.text 0 (.block .spaced))
      ∧ Function.spaced.text 2 = indented 2 (Function.spaced.text 0) := by
  have hblock : Block.spaced.WithinLines := by
    simp [Block.spaced, Block.plain, Block.branch, Block.WithinLines, Statement.AllWithinLines,
      Statement.WithinLines, Branch.AllWithinLines, Branch.WithinLines, OnOneLine]
  have hparams : ∀ p ∈ Function.spaced.params, p.WithinLines := by
    intro p hp
    simp only [Function.spaced, Param.plain, List.mem_cons, List.not_mem_nil, or_false] at hp
    rcases hp with rfl | rfl | rfl <;> exact ⟨by simp, by simp, by decide, by decide⟩
  have hfunction : Function.spaced.WithinLines :=
    ⟨by decide, by decide, by simp [Function.spaced], by decide, hparams, by decide,
      ⟨hblock, trivial⟩⟩
  obtain ⟨hs, hb, hf⟩ := indentation_commutes 2
  exact ⟨hblock, hblock, hfunction, hb _ hblock, by decide +kernel, hs _ hblock, hf _ hfunction⟩

end ClientGen.Code
