/-
  ClientGen/Proofs/Request/Literals.lean
  ======================================
  **The literal of a path is read back as the path.**

  An interpolation is read up to its own closing brace (`read_parameter`).  The texts of a
  template stand apart, so the literal of a path gives back the parts of the path, each text
  unchanged and one interpolation for each placeholder (`literals_read_back`).
-/
import ClientGen.Proofs.Code.Literals
import ClientGen.Proofs.Related
import ClientGen.Proofs.Request.Completeness

namespace ClientGen.Request

open ClientGen.Code ClientGen.Path ClientGen.Text ClientGen.Validation

/-! ### Pieces of a path -/

/-- What the literal of a path holds for a piece. -/
def PathPiece.entry : PathPiece → Entry
  | .text content => .text content
  | .parameter name true => .code [.plain name]
  | .parameter name false => .code [.literal [.name name], .plain ".encodeURLPath()"]

/-- The name of a parameter can stand in a literal without braces. -/
def PathPiece.IsNamed : PathPiece → Prop
  | .text _ => True
  | .parameter name _ => isPlainName name = true

theorem ne_empty_of_isPlainName {name : String} (h : isPlainName name = true) : name ≠ "" := by
  rintro rfl
  cases h

section Reading

variable {entries : List Entry} {run : List Char} {around : List OpenCode}

/-- An interpolation is read up to its own brace. -/
theorem read_parameter {name : String} (h : isPlainName name = true) (encoded : Bool)
    (cs : List Char) :
    (LiteralState.quoted .plain entries run around).read
        ((pieceText (.parameter name encoded)).toList ++ cs)
      = (LiteralState.quoted .plain
          (entries ++ textRun run ++ [(PathPiece.parameter name encoded).entry]) [] around).read
          cs := by
  obtain ⟨c, cs', hname, -, hall⟩ := LiteralState.exists_of_isPlainName h
  have hplain : ∀ d ∈ name.toList, LiteralState.isPlainCode d = true :=
    fun d hd => LiteralState.isPlainCode_of_continuesName (hall d hd)
  cases encoded with
  | true =>
    have hlist : (pieceText (.parameter name true)).toList ++ cs
        = '$' :: '{' :: (name.toList ++ '}' :: cs) := by
      simp [pieceText]
    rw [hlist, LiteralState.read_open, LiteralState.read_code _ hplain, List.nil_append,
      LiteralState.read_brace, codeRun_toList (ne_empty_of_isPlainName h), List.nil_append]
    rfl
  | false =>
    have hlist : (pieceText (.parameter name false)).toList ++ cs
        = '$' :: '{' :: '"' :: '$' :: (name.toList ++ '"' :: (".encodeURLPath()".toList
          ++ '}' :: cs)) := by
      simp [pieceText]
    have hpath : ∀ d ∈ ".encodeURLPath()".toList, LiteralState.isPlainCode d = true := by
      simp [LiteralState.isPlainCode]
    have hclose : LiteralState.close ([] ++ textRun [] ++ [.name name])
          (⟨entries ++ textRun run, [], [], 0⟩ :: around)
        = .code ⟨entries ++ textRun run, [.literal [.name name]], [], 0⟩ around := rfl
    rw [hlist, LiteralState.read_open, LiteralState.read_inner, LiteralState.read_dollarName h,
      hclose, LiteralState.read_code _ hpath, List.nil_append, LiteralState.read_brace,
      codeRun_toList (by decide)]
    rfl

/-! ### Whole paths -/

/-- The entries of a path in which neighbouring texts have become one. -/
def mergedEntries (run : List Char) : List PathPiece → List Entry
  | [] => textRun run
  | .text content :: pieces => mergedEntries (run ++ content.toList) pieces
  | .parameter name encoded :: pieces =>
    textRun run ++ (PathPiece.parameter name encoded).entry :: mergedEntries [] pieces

/-- The literal of a path is read to its last quote. -/
theorem read_pieces {pieces : List PathPiece} (h : ∀ piece ∈ pieces, piece.IsNamed)
    (cs : List Char) :
    (LiteralState.quoted .plain entries run around).read
        ((String.join (pieces.map pieceText)).toList ++ '"' :: cs)
      = (LiteralState.close (entries ++ mergedEntries run pieces) around).read cs := by
  induction pieces generalizing entries run with
  | nil =>
    rw [List.map_nil, String.join_nil, String.toList_empty, List.nil_append,
      LiteralState.read_quote]
    rfl
  | cons piece pieces ih =>
    obtain ⟨hpiece, hpieces⟩ := List.forall_mem_cons.mp h
    rw [List.map_cons, String.join_cons, String.toList_append, List.append_assoc]
    cases piece with
    | text content =>
      rw [pieceText, LiteralState.read_escape, ih hpieces]
      rfl
    | parameter name encoded =>
      rw [read_parameter hpiece, ih hpieces, mergedEntries, List.append_assoc, List.append_assoc]
      rfl

end Reading

theorem mergedEntries_literalRun {f : FunctionModel} {run : List Char} {parts : List Part}
    {pieces : List PathPiece} (h : List.Forall₂ (BoundPart f) (literalRun run ++ parts) pieces) :
    ∃ rest, List.Forall₂ (BoundPart f) parts rest
      ∧ mergedEntries [] pieces = mergedEntries run rest
      ∧ pieces.map PathPiece.entry = textRun run ++ rest.map PathPiece.entry := by
  unfold literalRun at h
  unfold textRun
  cases run with
  | nil => exact ⟨pieces, h, rfl, rfl⟩
  | cons c run =>
    cases h with
    | cons hpiece hrest =>
      cases hpiece
      refine ⟨_, hrest, ?_, rfl⟩
      rw [mergedEntries, List.nil_append, String.toList_ofList]

/-- The texts of a template stand apart, so nothing becomes one. -/
theorem mergedEntries_of_partsFrom {f : FunctionModel} {run cs : List Char}
    {pieces : List PathPiece} (h : List.Forall₂ (BoundPart f) (partsFrom run cs) pieces) :
    mergedEntries [] pieces = pieces.map PathPiece.entry := by
  induction run, cs using partsFrom.induct generalizing pieces with
  | case1 run =>
    rw [partsFrom, ← List.append_nil (literalRun run)] at h
    obtain ⟨rest, hrest, hmerged, hmap⟩ := mergedEntries_literalRun h
    cases hrest
    rw [hmerged, hmap, mergedEntries, List.map_nil, List.append_nil]
  | case2 run cs name rest hname _ ih =>
    rw [partsFrom_of_placeholderName run hname] at h
    obtain ⟨pieces', hrest, hmerged, hmap⟩ := mergedEntries_literalRun h
    cases hrest with
    | cons hpiece hpieces =>
      cases hpiece
      rw [hmerged, hmap, mergedEntries, ih hpieces]
      rfl
  | case3 run cs hname ih =>
    rw [partsFrom_of_no_placeholderName run hname] at h
    exact ih h
  | case4 run c cs hc ih =>
    rw [partsFrom, if_neg hc] at h
    exact ih h

/-! ### Bound paths -/

/-- A bound path is read back piece by piece. -/
theorem readLiteral_pathLiteral {f : FunctionModel} {raw : String} {pieces : List PathPiece}
    (hparts : List.Forall₂ (BoundPart f) (Template.parse raw).parts pieces)
    (hnamed : ∀ piece ∈ pieces, piece.IsNamed) (rest : List Char) :
    readLiteral ((pathLiteral pieces).toList ++ rest)
      = some (pieces.map PathPiece.entry, rest) := by
  have hlist : (pathLiteral pieces).toList ++ rest
      = '"' :: ((String.join (pieces.map pieceText)).toList ++ '"' :: rest) := by
    simp [pathLiteral]
  rw [hlist, readLiteral, read_pieces hnamed, List.nil_append, mergedEntries_of_partsFrom hparts]
  exact LiteralState.read_closed rest

example : readLiteral "\"a\\$b$\x7bid\x7d\") x".toList
    = some ([.text "a$b", .code [.plain "id"]], ") x".toList) := rfl

theorem isNamed_of_bound {f : FunctionModel} (h : ∀ p ∈ f.parameters, isPlainName p.name = true)
    {part : Part} {piece : PathPiece} (hbound : BoundPart f part piece) : piece.IsNamed := by
  cases hbound with
  | literal text => trivial
  | placeholder name p encoded honly hrole =>
    have hp := List.mem_singleton_self p
    rw [← honly] at hp
    exact h p (List.mem_filter.mp hp).1

/-- A quoted text is one literal that holds the text and nothing else, whatever stands behind
    it.  The literal of a bound path holds the parts of the path in order: each text unchanged,
    and for each placeholder one interpolation of the parameter that is bound to it. -/
theorem literals_read_back :
    (∀ (s : String) (rest : List Char),
        readLiteral ((quoted s).toList ++ rest) = some (if s = "" then [] else [.text s], rest)
          ∧ ∀ c ∈ (quoted s).toList, isLineBreak c = false)
      ∧ ∀ {m m' : InterfaceModel} {o : Options} {log log' : Log}, m.IsExtracted →
        (validate Check.all m o).run.run log = (.ok (some m'), log') →
        ∀ f ∈ m'.generatedFunctions, (∀ p ∈ f.parameters, isPlainName p.name = true) →
          f.path = Template.parse
              (effectivePath m'.options.basePath f.httpMethod.path (f.hasRole .url))
            ∧ ∃ pieces, bindPath f = .ok pieces
              ∧ List.Forall₂ (BoundPart f) f.path.parts pieces
              ∧ (∀ rest, readLiteral ((pathLiteral pieces).toList ++ rest)
                  = some (pieces.map PathPiece.entry, rest))
              ∧ (f.path.isEmpty = false → ∀ names, "this.takeFrom(" ++ pathLiteral pieces ++ ")"
                  ∈ callsIn ((writePopulation f pieces).run names).1.url) := by
  constructor
  · intro s rest
    refine ⟨?_, fun c hc => isLineBreak_of_mem_quoted hc⟩
    rw [readLiteral_quoted]
    by_cases hs : s = ""
    · rw [if_pos hs, hs]
      rfl
    · rw [if_neg hs, textRun_toList hs]
  · intro m m' o log log' hm hvalidate f hf hnames
    obtain ⟨rfl, haccepted⟩ := accepted_of_validate hvalidate
    have hread := hm.isRead (List.mem_filter.mp hf).1
    have hchecked := haccepted.function hf
    obtain ⟨pieces, hbind, hparts⟩ := bindPath_eq_ok hchecked.path
    refine ⟨hread.path, pieces, hbind, hparts, ?_, ?_⟩
    · rw [hread.path] at hparts
      have hnamed : ∀ piece ∈ pieces, piece.IsNamed := by
        intro piece hpiece
        obtain ⟨part, -, hbound⟩ := exists_mem_of_forall₂ hparts.flip hpiece
        exact isNamed_of_bound hnames hbound
      exact readLiteral_pathLiteral hparts hnamed
    · intro hpath names
      obtain ⟨urls, queries, fragments, -, -, -, hlayout⟩ :=
        (writePopulation_writes hread hchecked hparts names).url
      have hstatements : pathStatements f pieces
          = [.expression ("this.takeFrom(" ++ pathLiteral pieces ++ ")")] := by
        rw [pathStatements, if_neg (by rw [hpath]; decide)]
      rw [hlayout, callsIn_blockUnlessEmpty, callsIn_append, callsIn_append, callsIn_append,
        callsIn_append, hstatements]
      simp [callsIn, callsOf]

def InterfaceModel.ofMarks : InterfaceModel :=
  .holding "Marks" [.getting "a\\\x7bid\x7d$b\x7bto\x7d\"\x7b$\x7d"
    [⟨"id", .named "kotlin.Int", false, [⟨"Path", []⟩]⟩,
      ⟨"to", .named "kotlin.String", false, [⟨"Path", [("encoded", .bool true)]⟩]⟩,
      ⟨"from", .named "kotlin.String", false, [⟨"Path", [("value", .string "$")]⟩]⟩]
    (.named "kotlin.String")]

theorem literals_read_back_of_marks : ∃ f ∈ InterfaceModel.ofMarks.generatedFunctions,
    (∀ p ∈ f.parameters, isPlainName p.name = true)
      ∧ ∃ pieces, bindPath f = .ok pieces ∧ List.Forall₂ (BoundPart f) f.path.parts pieces
        ∧ ∀ rest, readLiteral ((pathLiteral pieces).toList ++ rest)
          = some (pieces.map PathPiece.entry, rest) := by
  have hm : InterfaceModel.ofMarks.IsExtracted :=
    InterfaceModel.holding_isExtracted (by decide +kernel)
  have haccepted : Accepted Check.all InterfaceModel.ofMarks .default :=
    errorsOf_eq_zero.mp (by decide +kernel)
  obtain ⟨log', hvalidate⟩ := validate_of_accepted rfl haccepted (.opened "")
  obtain ⟨f, hf⟩ := List.exists_mem_of_ne_nil InterfaceModel.ofMarks.generatedFunctions
    (List.isEmpty_eq_false_iff.mp (by decide +kernel))
  have hall : (InterfaceModel.ofMarks.generatedFunctions.all fun f =>
      f.parameters.all fun p => isPlainName p.name) = true := by
    decide +kernel
  have hnames : ∀ p ∈ f.parameters, isPlainName p.name = true :=
    List.all_eq_true.mp (List.all_eq_true.mp hall f hf)
  obtain ⟨-, pieces, hbind, hparts, hread, -⟩ := literals_read_back.2 hm hvalidate f hf hnames
  exact ⟨f, hf, hnames, pieces, hbind, hparts, hread⟩

end ClientGen.Request
