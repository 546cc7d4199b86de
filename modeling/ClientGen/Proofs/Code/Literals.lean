/-
  ClientGen/Proofs/Code/Literals.lean
  ===================================
  **Literals are read back.**

  A literal is read one character at a time: behind a backslash stands one of six escapes, a
  dollar sign in front of a name or a brace starts an interpolation, code between braces may
  hold literals of its own, and a line break is an error.  An escaped text is read as the text
  itself and nothing of it starts or ends anything (`read_escape`).  So a quoted text ends at
  its last quote, whatever stands behind it (`readLiteral_quoted`).
-/
import ClientGen.Proofs.Text.Pieces
import ClientGen.Request.Value
import ClientGen.Text.Literal

namespace ClientGen.Code

open ClientGen.Request ClientGen.Text

/-! ### Entries -/

mutual
/-- What stands between the quotes of a literal. -/
inductive Entry where
  | text (content : String)
  /-- A name behind a dollar sign. -/
  | name (content : String)
  /-- Code in braces behind a dollar sign. -/
  | code (parts : List CodePart)

/-- A part of interpolated code. -/
inductive CodePart where
  | plain (content : String)
  | literal (entries : List Entry)
end

/-- The characters of a text that have been read, nothing when there are none. -/
def textRun (run : List Char) : List Entry :=
  if run.isEmpty then [] else [.text (String.ofList run)]

def codeRun (run : List Char) : List CodePart :=
  if run.isEmpty then [] else [.plain (String.ofList run)]

@[simp] theorem textRun_nil : textRun [] = [] := rfl

theorem textRun_toList {s : String} (h : s ≠ "") : textRun s.toList = [.text s] := by
  rw [textRun, if_neg (by simpa using h), String.ofList_toList]

theorem codeRun_toList {s : String} (h : s ≠ "") : codeRun s.toList = [.plain s] := by
  rw [codeRun, if_neg (by simpa using h), String.ofList_toList]

/-! ### Reading -/

/-- Interpolated code that is not closed yet. -/
structure OpenCode where
  /-- What stands in front of it in the literal around it. -/
  entries : List Entry
  parts : List CodePart
  run : List Char
  /-- The braces of the code itself that are not closed yet. -/
  depth : Nat

/-- What stands directly in front of the next character of a literal. -/
inductive Mode where
  | plain
  | backslash
  | dollar
  | name (content : List Char)
  /-- A name between backticks. -/
  | ticked (content : List Char)

/-- How far a literal has been read. -/
inductive LiteralState where
  /-- Between quotes, with the code around them from the inside out. -/
  | quoted (mode : Mode) (entries : List Entry) (run : List Char) (around : List OpenCode)
  | code (inner : OpenCode) (around : List OpenCode)
  | closed (entries : List Entry)

/-- The character that a letter behind a backslash stands for. -/
def unescapeChar (c : Char) : Char :=
  if c = 'n' then '\n' else if c = 'r' then '\r' else if c = 't' then '\t' else c

/-- The letters and marks that may stand behind a backslash. -/
def isEscape (c : Char) : Bool :=
  ['\\', '"', '$', 'n', 'r', 't'].contains c

namespace LiteralState

/-- A closing quote ends the literal, or goes back to the code around it. -/
def close (entries : List Entry) : List OpenCode → LiteralState
  | [] => .closed entries
  | c :: around =>
    .code { c with parts := c.parts ++ codeRun c.run ++ [.literal entries], run := [] } around

/-- The next character of a literal behind text. -/
def stepText (entries : List Entry) (run : List Char) (around : List OpenCode) (c : Char) :
    Option LiteralState :=
  if isLineBreak c then none
  else if c = '"' then some (close (entries ++ textRun run) around)
  else if c = '\\' then some (.quoted .backslash entries run around)
  else if c = '$' then some (.quoted .dollar entries run around)
  else some (.quoted .plain entries (run ++ [c]) around)

/-- The next character of interpolated code that holds neither comments nor characters in
    quotes. -/
def stepCode (inner : OpenCode) (around : List OpenCode) (c : Char) : LiteralState :=
  if c = '"' then .quoted .plain [] [] (inner :: around)
  else if c = '{' then
    .code { inner with run := inner.run ++ [c], depth := inner.depth + 1 } around
  else if c = '}' then
    match inner.depth with
    | 0 => .quoted .plain (inner.entries ++ [.code (inner.parts ++ codeRun inner.run)]) [] around
    | depth + 1 => .code { inner with run := inner.run ++ [c], depth := depth } around
  else .code { inner with run := inner.run ++ [c] } around

/-- One more character, or none where a literal cannot have it. -/
def step : LiteralState → Char → Option LiteralState
  | .quoted .plain entries run around, c => stepText entries run around c
  | .quoted .backslash entries run around, c =>
    if isEscape c then some (.quoted .plain entries (run ++ [unescapeChar c]) around) else none
  | .quoted .dollar entries run around, c =>
    if c = '{' then some (.code ⟨entries ++ textRun run, [], [], 0⟩ around)
    else if startsName c then some (.quoted (.name [c]) entries run around)
    else if c = '\x60' then some (.quoted (.ticked []) entries run around)
    else stepText entries (run ++ ['$']) around c
  | .quoted (.name content) entries run around, c =>
    if continuesName c then some (.quoted (.name (content ++ [c])) entries run around)
    else stepText (entries ++ textRun run ++ [.name (String.ofList content)]) [] around c
  | .quoted (.ticked content) entries run around, c =>
    if isLineBreak c then none
    else if c = '\x60' then
      some (.quoted .plain (entries ++ textRun run ++ [.name (String.ofList content)]) [] around)
    else some (.quoted (.ticked (content ++ [c])) entries run around)
  | .code inner around, c => some (stepCode inner around c)
  | .closed _, _ => none

/-- Read on until the literal is closed; the characters behind it are left. -/
def read : LiteralState → List Char → Option (List Entry × List Char)
  | .closed entries, rest => some (entries, rest)
  | _, [] => none
  | s, c :: cs =>
    match s.step c with
    | some s' => s'.read cs
    | none => none

end LiteralState

/-- The entries of the literal in front of a text, and what stands behind it. -/
def readLiteral : List Char → Option (List Entry × List Char)
  | '"' :: cs => (LiteralState.quoted .plain [] [] []).read cs
  | _ => none

/-! ### Texts -/

namespace LiteralState

variable {s t : LiteralState} {entries : List Entry} {run : List Char} {around : List OpenCode}
  {c : Char}

theorem read_of_step (h : s.step c = some t) (cs : List Char) : s.read (c :: cs) = t.read cs := by
  cases s with
  | closed entries => cases h
  | quoted mode entries run around => simp only [read, h]
  | code inner around => simp only [read, h]

@[simp] theorem read_closed (rest : List Char) :
    (closed entries).read rest = some (entries, rest) := by
  cases rest <;> rfl

theorem read_text (h : stepText entries run around c = some t) (cs : List Char) :
    (quoted .plain entries run around).read (c :: cs) = t.read cs :=
  read_of_step (s := quoted .plain entries run around) h cs

theorem read_backslash (h : isEscape c = true) (cs : List Char) :
    (quoted .plain entries run around).read ('\\' :: c :: cs)
      = (quoted .plain entries (run ++ [unescapeChar c]) around).read cs := by
  have hstep : (quoted .backslash entries run around).step c
      = some (.quoted .plain entries (run ++ [unescapeChar c]) around) := if_pos h
  rw [read_text (t := .quoted .backslash entries run around) rfl, read_of_step hstep]

theorem read_plain (hbreak : isLineBreak c = false) (hquote : c ≠ '"') (hslash : c ≠ '\\')
    (hdollar : c ≠ '$') (cs : List Char) :
    (quoted .plain entries run around).read (c :: cs)
      = (quoted .plain entries (run ++ [c]) around).read cs := by
  refine read_text ?_ cs
  rw [stepText, if_neg (by rw [hbreak]; decide), if_neg hquote, if_neg hslash, if_neg hdollar]

theorem read_escapeChar (c : Char) (cs : List Char) :
    (quoted .plain entries run around).read (escapeChar c ++ cs)
      = (quoted .plain entries (run ++ [c]) around).read cs := by
  unfold escapeChar
  split
  case h_7 hslash hquote hdollar hfeed hreturn _ =>
    exact read_plain (isLineBreak_of_ne hfeed hreturn) hquote hslash hdollar cs
  all_goals exact read_backslash rfl cs

/-- An escaped text is read as the text. -/
theorem read_escape (t : String) (cs : List Char) :
    (quoted .plain entries run around).read ((escape t).toList ++ cs)
      = (quoted .plain entries (run ++ t.toList) around).read cs := by
  rw [escape, String.toList_ofList]
  induction t.toList generalizing run with
  | nil => rw [List.append_nil, List.flatMap_nil, List.nil_append]
  | cons c t ih =>
    rw [List.flatMap_cons, List.append_assoc, read_escapeChar, ih, List.append_assoc,
      List.singleton_append]

/-- A quote behind text closes the literal. -/
theorem read_quote (cs : List Char) :
    (quoted .plain entries run around).read ('"' :: cs)
      = (close (entries ++ textRun run) around).read cs :=
  read_text rfl cs

/-! ### Interpolations -/

theorem ne_of_startsName {c d : Char} (h : startsName c = true) (hd : startsName d = false) :
    c ≠ d := by
  rintro rfl
  rw [hd] at h
  cases h

theorem ne_of_continuesName {c d : Char} (h : continuesName c = true)
    (hd : continuesName d = false) : c ≠ d := by
  rintro rfl
  rw [hd] at h
  cases h

/-- The character goes on with code and neither opens nor closes anything. -/
def isPlainCode (c : Char) : Bool :=
  c != '"' && c != '{' && c != '}'

theorem isPlainCode_of_continuesName (h : continuesName c = true) : isPlainCode c = true := by
  simp only [isPlainCode, Bool.and_eq_true, bne_iff_ne]
  exact ⟨⟨ne_of_continuesName h (by decide), ne_of_continuesName h (by decide)⟩,
    ne_of_continuesName h (by decide)⟩

theorem read_code (inner : OpenCode) {code : List Char} (h : ∀ c ∈ code, isPlainCode c = true)
    (cs : List Char) :
    (LiteralState.code inner around).read (code ++ cs)
      = (LiteralState.code { inner with run := inner.run ++ code } around).read cs := by
  induction code generalizing inner with
  | nil => rw [List.append_nil, List.nil_append]
  | cons c code ih =>
    obtain ⟨hc, hcode⟩ := List.forall_mem_cons.mp h
    simp only [isPlainCode, Bool.and_eq_true, bne_iff_ne] at hc
    have hstep : (LiteralState.code inner around).step c
        = some (.code { inner with run := inner.run ++ [c] } around) := by
      rw [step, stepCode, if_neg hc.1.1, if_neg hc.1.2, if_neg hc.2]
    rw [List.cons_append, read_of_step hstep, ih _ hcode, List.append_assoc,
      List.singleton_append]

theorem read_nameChars (content : List Char) {name : List Char}
    (h : ∀ c ∈ name, continuesName c = true) (cs : List Char) :
    (quoted (.name content) entries run around).read (name ++ cs)
      = (quoted (.name (content ++ name)) entries run around).read cs := by
  induction name generalizing content with
  | nil => rw [List.append_nil, List.nil_append]
  | cons c name ih =>
    obtain ⟨hc, hname⟩ := List.forall_mem_cons.mp h
    have hstep : (quoted (.name content) entries run around).step c
        = some (.quoted (.name (content ++ [c])) entries run around) := if_pos hc
    rw [List.cons_append, read_of_step hstep, ih _ hname, List.append_assoc,
      List.singleton_append]

theorem exists_of_isPlainName {name : String} (h : isPlainName name = true) :
    ∃ c cs, name.toList = c :: cs ∧ startsName c = true
      ∧ ∀ d ∈ name.toList, continuesName d = true := by
  unfold isPlainName at h
  cases hname : name.toList with
  | nil =>
    rw [hname] at h
    cases h
  | cons c cs =>
    rw [hname, Bool.and_eq_true, List.all_eq_true] at h
    exact ⟨c, cs, rfl, h⟩

/-- A name behind a dollar sign ends at the quote that closes the literal. -/
theorem read_dollarName {name : String} (h : isPlainName name = true) (cs : List Char) :
    (quoted .plain entries run around).read ('$' :: (name.toList ++ '"' :: cs))
      = (close (entries ++ textRun run ++ [.name name]) around).read cs := by
  obtain ⟨c, name', hname, hstart, hall⟩ := exists_of_isPlainName h
  rw [hname] at hall
  have hfirst : (quoted .dollar entries run around).step c
      = some (.quoted (.name [c]) entries run around) := by
    rw [step, if_neg (ne_of_startsName hstart (by decide)), if_pos hstart]
  have hquote : continuesName '"' = false := by decide
  have hlast : (quoted (.name (c :: name')) entries run around).step '"'
      = some (close (entries ++ textRun run ++ [.name name]) around) := by
    rw [step, if_neg (by rw [hquote]; decide), ← hname, String.ofList_toList, stepText,
      if_neg (by decide), if_pos rfl, textRun_nil, List.append_nil]
  rw [read_text (t := .quoted .dollar entries run around) rfl, hname, List.cons_append,
    read_of_step hfirst, read_nameChars [c] (List.forall_mem_cons.mp hall).2,
    List.singleton_append, read_of_step hlast]

/-- A brace behind a dollar sign opens code. -/
theorem read_open (cs : List Char) :
    (quoted .plain entries run around).read ('$' :: '{' :: cs)
      = (LiteralState.code ⟨entries ++ textRun run, [], [], 0⟩ around).read cs := by
  have hopen : (quoted .dollar entries run around).step '{'
      = some (.code ⟨entries ++ textRun run, [], [], 0⟩ around) := rfl
  rw [read_text (t := .quoted .dollar entries run around) rfl, read_of_step hopen]

/-- A quote in code opens a literal. -/
theorem read_inner (inner : OpenCode) (cs : List Char) :
    (LiteralState.code inner around).read ('"' :: cs)
      = (quoted .plain [] [] (inner :: around)).read cs :=
  read_of_step (s := .code inner around) rfl cs

/-- The brace that closes code goes back to the literal around it. -/
theorem read_brace (entries : List Entry) (parts : List CodePart) (run cs : List Char) :
    (LiteralState.code ⟨entries, parts, run, 0⟩ around).read ('}' :: cs)
      = (quoted .plain (entries ++ [.code (parts ++ codeRun run)]) [] around).read cs :=
  read_of_step (s := .code ⟨entries, parts, run, 0⟩ around) rfl cs

end LiteralState

/-! ### Quoted texts -/

/-- A quoted text is read back, and nothing behind it is touched. -/
theorem readLiteral_quoted (s : String) (rest : List Char) :
    readLiteral ((quoted s).toList ++ rest) = some (textRun s.toList, rest) := by
  have hlist : (quoted s).toList ++ rest = '"' :: ((escape s).toList ++ '"' :: rest) := by
    simp [quoted]
  rw [hlist, readLiteral, LiteralState.read_escape, LiteralState.read_quote]
  exact LiteralState.read_closed rest

theorem all_escapeChar (c : Char) : (escapeChar c).all (fun d => !isLineBreak d) = true := by
  unfold escapeChar
  split
  case h_7 _ _ _ hfeed hreturn _ =>
    rw [List.all_cons, isLineBreak_of_ne hfeed hreturn]
    rfl
  all_goals rfl

theorem isLineBreak_of_mem_quoted {s : String} {c : Char} (h : c ∈ (quoted s).toList) :
    isLineBreak c = false := by
  have hall : (quoted s).toList.all (fun d => !isLineBreak d) = true := by
    have hescape : (escape s).toList.all (fun d => !isLineBreak d) = true := by
      rw [escape, String.toList_ofList, List.all_flatMap, List.all_eq_true]
      exact fun d _ => all_escapeChar d
    rw [quoted, String.toList_append, String.toList_append, List.all_append, List.all_append,
      hescape]
    rfl
  simpa using List.all_eq_true.mp hall c h

end ClientGen.Code
