/-
  ClientGen/Proofs/Path/Tokens.lean
  =================================
  **Templates as tokens.**

  Read from left to right, a path is one sequence of tokens: where a placeholder starts
  it is taken as a whole, elsewhere one character is taken (`Scans`).  The parts of a
  template are these tokens with neighbouring characters put together, so nothing of the
  path is lost and no two texts stand side by side (`parse_tokens`).

  A brace that is left in a text has no closing brace behind it or has one right behind
  it.  Values without braces keep it so, and a path with values in place of its
  placeholders has none left (`parse_substituteAll`).
-/
import ClientGen.Path.Template
import ClientGen.Proofs.Text.Blank
import Mathlib.Data.List.Chain

namespace ClientGen.Path

open ClientGen.Text

/-! ### Tokens -/

inductive Token where
  | character (c : Char)
  | placeholder (name : List Char)
deriving DecidableEq, Repr

/-- A placeholder stands in front of the rest: braces around a name that is not empty and
    that ends at the first closing brace. -/
structure Opens (cs name rest : List Char) : Prop where
  eq : cs = '{' :: (name ++ '}' :: rest)
  ne_nil : name ≠ []
  closed : '}' ∉ name

/-- The tokens of a text from left to right. -/
inductive Scans : List Char → List Token → Prop
  | nil : Scans [] []
  | placeholder {cs name rest : List Char} {tokens : List Token} (opens : Opens cs name rest)
      (scans : Scans rest tokens) : Scans cs (.placeholder name :: tokens)
  | character {c : Char} {cs : List Char} {tokens : List Token}
      (plain : ∀ name rest, ¬ Opens (c :: cs) name rest) (scans : Scans cs tokens) :
      Scans (c :: cs) (.character c :: tokens)

/-- A token in front of parts; a character joins the text that it meets. -/
def addToken : Token → List Part → List Part
  | .placeholder name, parts => .placeholder (String.ofList name) :: parts
  | .character c, .literal text :: parts => .literal (String.singleton c ++ text) :: parts
  | .character c, parts => .literal (String.singleton c) :: parts

/-- The parts that tokens make up. -/
def merge (tokens : List Token) : List Part :=
  tokens.foldr addToken []

/-- The text of a part when a placeholder shows as `form` of its name. -/
def Part.shownBy (form : String → String) : Part → String
  | .literal text => text
  | .placeholder name => form name

/-- The part as a path writes it. -/
def Part.written : Part → String :=
  Part.shownBy fun name => "\x7b" ++ name ++ "\x7d"

/-- The text of tokens when placeholders show as `form` of their names. -/
def shownBy (form : String → String) : List Token → List Char
  | [] => []
  | .character c :: tokens => c :: shownBy form tokens
  | .placeholder name :: tokens => (form (String.ofList name)).toList ++ shownBy form tokens

@[simp] theorem merge_cons (token : Token) (tokens : List Token) :
    merge (token :: tokens) = addToken token (merge tokens) :=
  rfl

section Scanning

variable {c : Char} {cs name name' rest rest' : List Char} {tokens tokens' : List Token}

theorem placeholderName_eq_some :
    placeholderName cs = some (name, rest) ↔ Opens ('{' :: cs) name rest := by
  constructor
  · intro h
    unfold placeholderName at h
    split at h
    · rename_i hsplit
      cases h
      obtain ⟨hcs, hclosed⟩ := splitFirst_eq_some hsplit
      exact ⟨by rw [hcs], List.cons_ne_nil _ _, hclosed⟩
    · cases h
  · rintro ⟨heq, hne, hclosed⟩
    obtain ⟨d, name, rfl⟩ := List.exists_cons_of_ne_nil hne
    cases heq
    simp only [placeholderName, splitFirst_append hclosed]

theorem Opens.unique (h : Opens cs name rest) (h' : Opens cs name' rest') :
    name = name' ∧ rest = rest' := by
  have heq := h.eq
  subst heq
  have hsame := (placeholderName_eq_some.mpr h).symm.trans (placeholderName_eq_some.mpr h')
  cases hsame
  exact ⟨rfl, rfl⟩

theorem Scans.unique (h : Scans cs tokens) (h' : Scans cs tokens') : tokens = tokens' := by
  induction h generalizing tokens' with
  | nil =>
    cases h' with
    | nil => rfl
    | placeholder opens _ => cases opens.eq
  | placeholder opens _ ih =>
    cases h' with
    | nil => cases opens.eq
    | placeholder opens' scans' =>
      obtain ⟨rfl, rfl⟩ := opens.unique opens'
      rw [ih scans']
    | character plain' _ => exact absurd opens (plain' _ _)
  | character plain _ ih =>
    cases h' with
    | placeholder opens' _ => exact absurd opens' (plain _ _)
    | character _ scans' => rw [ih scans']

theorem exists_scans (cs : List Char) : ∃ tokens, Scans cs tokens := by
  induction ([] : List Char), cs using partsFrom.induct with
  | case1 run => exact ⟨[], .nil⟩
  | case2 run cs name rest hname _ ih =>
    obtain ⟨tokens, hscans⟩ := ih
    exact ⟨_, .placeholder (placeholderName_eq_some.mp hname) hscans⟩
  | case3 run cs hnone ih =>
    obtain ⟨tokens, hscans⟩ := ih
    refine ⟨_, .character (fun name rest hopens => ?_) hscans⟩
    rw [placeholderName_eq_some.mpr hopens] at hnone
    cases hnone
  | case4 run c cs hc ih =>
    obtain ⟨tokens, hscans⟩ := ih
    refine ⟨_, .character (fun name rest hopens => ?_) hscans⟩
    exact hc (List.cons.inj hopens.eq).1

end Scanning

/-! ### Cutting a path -/

section Cutting

variable {cs name rest : List Char} (run : List Char)

theorem partsFrom_of_placeholderName (h : placeholderName cs = some (name, rest)) :
    partsFrom run ('{' :: cs)
      = literalRun run ++ .placeholder (String.ofList name) :: partsFrom [] rest := by
  rw [partsFrom, if_pos rfl]
  split
  · rename_i hname
    rw [h] at hname
    cases hname
    rfl
  · rename_i hnone
    rw [h] at hnone
    cases hnone

theorem partsFrom_of_no_placeholderName (h : placeholderName cs = none) :
    partsFrom run ('{' :: cs) = partsFrom (run ++ ['{']) cs := by
  rw [partsFrom, if_pos rfl]
  split
  · rename_i hsome
    rw [h] at hsome
    cases hsome
  · rfl

theorem merge_run {tokens : List Token}
    (h : ∀ text, (merge tokens).head? ≠ some (.literal text)) :
    merge (run.map Token.character ++ tokens) = literalRun run ++ merge tokens := by
  induction run with
  | nil => rfl
  | cons c run ih =>
    rw [List.map_cons, List.cons_append, merge_cons, ih]
    cases run with
    | nil =>
      cases hparts : merge tokens with
      | nil => rfl
      | cons part parts =>
        cases part with
        | literal text => exact absurd (by rw [hparts]; rfl) (h text)
        | placeholder name => rfl
    | cons d run => simp [literalRun, addToken]

/-- The characters in front of the cut stand in front of the tokens behind it. -/
theorem partsFrom_of_scans {tokens : List Token} (h : Scans cs tokens) :
    partsFrom run cs = merge (run.map Token.character ++ tokens) := by
  induction h generalizing run with
  | nil =>
    rw [partsFrom, merge_run run (by simp [merge])]
    exact (List.append_nil _).symm
  | placeholder opens _ ih =>
    have heq := opens.eq
    subst heq
    rw [partsFrom_of_placeholderName run (placeholderName_eq_some.mpr opens), ih,
      merge_run run (by simp [addToken])]
    rfl
  | @character c cs tokens plain _ ih =>
    have hstep : partsFrom run (c :: cs) = partsFrom (run ++ [c]) cs := by
      by_cases hc : c = '{'
      · subst hc
        apply partsFrom_of_no_placeholderName
        cases hname : placeholderName cs with
        | none => rfl
        | some found => exact absurd (placeholderName_eq_some.mp hname) (plain _ _)
      · rw [partsFrom, if_neg hc]
    rw [hstep, ih, List.map_append, List.append_assoc]
    rfl

end Cutting

theorem parts_parse {raw : String} {tokens : List Token} (h : Scans raw.toList tokens) :
    (Template.parse raw).parts = merge tokens :=
  partsFrom_of_scans [] h

/-- No text is empty, and no two texts stand side by side. -/
structure Apart (parts : List Part) : Prop where
  nonempty : Part.literal "" ∉ parts
  chain : parts.IsChain fun p q => p.placeholder?.isSome ∨ q.placeholder?.isSome

theorem Apart.addToken {parts : List Part} (h : Apart parts) (token : Token) :
    Apart (addToken token parts) := by
  obtain ⟨hnonempty, hchain⟩ := h
  cases token with
  | placeholder name =>
    refine ⟨by simpa [Path.addToken] using hnonempty, ?_⟩
    exact List.isChain_cons.mpr ⟨fun _ _ => .inl rfl, hchain⟩
  | character c =>
    cases parts with
    | nil => exact ⟨by simp [Path.addToken], List.isChain_singleton _⟩
    | cons part parts =>
      cases part with
      | placeholder name =>
        refine ⟨by simpa [Path.addToken] using hnonempty, ?_⟩
        exact List.isChain_cons_cons.mpr ⟨.inr rfl, hchain⟩
      | literal text =>
        rw [List.mem_cons, not_or] at hnonempty
        refine ⟨by simpa [Path.addToken] using hnonempty.2, ?_⟩
        obtain ⟨hnext, hrest⟩ := List.isChain_cons.mp hchain
        exact List.isChain_cons.mpr ⟨hnext, hrest⟩

theorem apart_merge (tokens : List Token) : Apart (merge tokens) := by
  induction tokens with
  | nil => exact ⟨List.not_mem_nil, List.IsChain.nil⟩
  | cons token tokens ih => exact ih.addToken token

/-! ### Showing parts -/

theorem join_shownBy_merge (form : String → String) (tokens : List Token) :
    (String.join ((merge tokens).map (Part.shownBy form))).toList = shownBy form tokens := by
  induction tokens with
  | nil => rfl
  | cons token tokens ih =>
    rw [merge_cons]
    cases token with
    | placeholder name => simp [addToken, Part.shownBy, shownBy, ← ih]
    | character c =>
      rw [shownBy, ← ih]
      cases merge tokens with
      | nil => simp [addToken, Part.shownBy]
      | cons part parts => cases part <;> simp [addToken, Part.shownBy]

/-- Tokens with their braces are the text that they are read from. -/
theorem Scans.shownBy_braces {cs : List Char} {tokens : List Token} (h : Scans cs tokens) :
    shownBy (fun name => "\x7b" ++ name ++ "\x7d") tokens = cs := by
  induction h with
  | nil => rfl
  | placeholder opens _ ih =>
    rw [shownBy, ih, opens.eq]
    simp
  | character _ _ ih => rw [shownBy, ih]

/-- A path has one sequence of tokens, and its parts are the tokens with neighbouring
    characters put together.  Written one behind the other they give the path back, none of
    their texts is empty, and of two neighbours at most one is text. -/
theorem Template.parse_tokens (raw : String) :
    ∃ tokens, (∀ ts, Scans raw.toList ts ↔ ts = tokens)
      ∧ (Template.parse raw).parts = merge tokens
      ∧ String.join ((Template.parse raw).parts.map Part.written) = raw
      ∧ Part.literal "" ∉ (Template.parse raw).parts
      ∧ (Template.parse raw).parts.IsChain fun p q =>
          p.placeholder?.isSome ∨ q.placeholder?.isSome := by
  obtain ⟨tokens, hscans⟩ := exists_scans raw.toList
  have hparts := parts_parse hscans
  obtain ⟨hnonempty, hchain⟩ := apart_merge tokens
  refine ⟨tokens, fun ts => ⟨fun h => h.unique hscans, fun h => h ▸ hscans⟩, hparts, ?_, ?_, ?_⟩
  · rw [hparts, ← String.toList_inj, Part.written, join_shownBy_merge,
      hscans.shownBy_braces]
  · rwa [hparts]
  · rwa [hparts]

example : (Template.parse "\x7b\x7d\x7bid\x7db").parts
    = merge [.character '{', .character '}', .placeholder ['i', 'd'], .character 'b'] := by
  decide +kernel

/-! ### Values in place of placeholders -/

section Substitution

variable {cs : List Char} {tokens : List Token} {value : String}

theorem substitute_eq_shownBy (value : String) :
    Part.substitute value = Part.shownBy fun _ => value := by
  funext part
  cases part <;> rfl

theorem Scans.closes_of_shownBy (h : Scans cs tokens)
    (hmem : '}' ∈ shownBy (fun _ => value) tokens) : '}' ∈ cs := by
  induction h with
  | nil => exact hmem
  | placeholder opens _ _ =>
    rw [opens.eq]
    simp
  | character _ _ ih =>
    rcases List.mem_cons.mp hmem with rfl | hrest
    · exact List.mem_cons_self
    · exact List.mem_cons_of_mem _ (ih hrest)

theorem Scans.shownBy_close {rest : List Char} (h : Scans ('}' :: rest) tokens)
    (value : String) :
    ∃ rest', shownBy (fun _ => value) tokens = '}' :: rest' := by
  cases h with
  | placeholder opens _ => cases opens.eq
  | character _ _ => exact ⟨_, rfl⟩

theorem scans_append_plain {front : List Char} (h : '{' ∉ front) (hscans : Scans cs tokens) :
    Scans (front ++ cs) (front.map Token.character ++ tokens) := by
  induction front with
  | nil => exact hscans
  | cons c front ih =>
    rw [List.mem_cons, not_or] at h
    refine .character (fun name rest hopens => ?_) (ih h.2)
    exact h.1 (List.cons.inj hopens.eq).1.symm

/-- With values in place of the placeholders every token is a character. -/
theorem Scans.shown (h : Scans cs tokens) (hvalue : '{' ∉ value.toList) :
    Scans (shownBy (fun _ => value) tokens)
      ((shownBy (fun _ => value) tokens).map Token.character) := by
  induction h with
  | nil => exact .nil
  | placeholder _ _ ih =>
    rw [shownBy, List.map_append]
    exact scans_append_plain hvalue ih
  | @character c cs tokens plain scans ih =>
    refine .character (fun name rest hopens => ?_) ih
    obtain ⟨heq, hne, hclosed⟩ := hopens
    obtain ⟨rfl, hshown⟩ := List.cons.inj heq
    -- what would close the name closes something in the path as well
    have hmem : '}' ∈ shownBy (fun _ => value) tokens := by
      rw [hshown]
      simp
    obtain ⟨front, back, rfl, hfront⟩ :=
      List.eq_append_cons_of_mem (scans.closes_of_shownBy hmem)
    cases front with
    | cons d front => exact plain (d :: front) back ⟨rfl, List.cons_ne_nil _ _, hfront⟩
    | nil =>
      -- no placeholder starts in the path, so it stands right behind the brace
      obtain ⟨rest', hclose⟩ := scans.shownBy_close value
      obtain ⟨d, name, rfl⟩ := List.exists_cons_of_ne_nil hne
      rw [hclose] at hshown
      apply hclosed
      rw [(List.cons.inj hshown).1]
      exact List.mem_cons_self

/-- A text whose tokens are characters is a template of text alone. -/
theorem plain_of_characters {s : String} (h : Scans s.toList (s.toList.map Token.character)) :
    (Template.parse s).placeholders = [] ∧ (Template.parse s).hasPlaceholders = false
      ∧ ∀ other, (Template.parse s).substituteAll other = s := by
  have hmerge : merge (s.toList.map Token.character ++ []) = literalRun s.toList ++ merge [] :=
    merge_run s.toList (by simp [merge])
  have hparts : (Template.parse s).parts = literalRun s.toList := by
    rw [parts_parse h, ← List.append_nil (s.toList.map Token.character), hmerge]
    exact List.append_nil _
  unfold Template.placeholders Template.hasPlaceholders Template.substituteAll
  rw [hparts, literalRun]
  split
  · rename_i hempty
    refine ⟨rfl, rfl, fun other => ?_⟩
    rw [← String.toList_inj, List.isEmpty_iff.mp hempty]
    rfl
  · refine ⟨rfl, rfl, fun other => ?_⟩
    simp [Part.substitute]

end Substitution

/-- A path with a value in place of every placeholder is text alone when the value holds no
    opening brace, whatever braces the texts of the path hold: read again, it has no
    placeholder, and no further value changes it. -/
theorem Template.parse_substituteAll (raw : String) {value : String} (h : '{' ∉ value.toList) :
    let filled := Template.parse ((Template.parse raw).substituteAll value)
    filled.placeholders = [] ∧ filled.hasPlaceholders = false
      ∧ ∀ other, filled.substituteAll other = filled.raw := by
  obtain ⟨tokens, hscans⟩ := exists_scans raw.toList
  have hfilled : ((Template.parse raw).substituteAll value).toList
      = shownBy (fun _ => value) tokens := by
    rw [Template.substituteAll, parts_parse hscans, substitute_eq_shownBy, join_shownBy_merge]
  apply plain_of_characters
  rw [hfilled]
  exact hscans.shown h

theorem parse_substituteAll_of_braces :
    '{' ∉ "v".toList
      ∧ (Template.parse "\x7b\x7d\x7ba\x7b\x7d\x7b").placeholders = ["a\x7b"]
      ∧ (Template.parse "\x7b\x7d\x7ba\x7b\x7d\x7b").substituteAll "v" = "\x7b\x7dv\x7b"
      ∧ (Template.parse "\x7b\x7dv\x7b").placeholders = [] := by
  have hvalue : '{' ∉ "v".toList := by decide
  have hfilled : (Template.parse "\x7b\x7d\x7ba\x7b\x7d\x7b").substituteAll "v"
      = "\x7b\x7dv\x7b" := by
    decide +kernel
  refine ⟨hvalue, by decide +kernel, hfilled, ?_⟩
  rw [← hfilled]
  exact (Template.parse_substituteAll _ hvalue).1

end ClientGen.Path
