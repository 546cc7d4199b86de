/-
  ClientGen/Text/Split.lean
  =========================
  **Cutting text into pieces.**

  Pieces between separators, lines, search and replacement, all as structural
  recursion over characters.  The main statement is `join_pieces`: cutting loses
  nothing.
-/

namespace ClientGen.Text

/-! ### Pieces between separators -/

def consHead (c : Char) : List (List Char) → List (List Char)
  | [] => [[c]]
  | p :: ps => (c :: p) :: ps

/-- The pieces between occurrences of `sep`; there is always at least one. -/
def pieces (sep : Char) : List Char → List (List Char)
  | [] => [[]]
  | c :: cs => if c = sep then [] :: pieces sep cs else consHead c (pieces sep cs)

def joinPieces (sep : Char) : List (List Char) → List Char
  | [] => []
  | [p] => p
  | p :: ps => p ++ sep :: joinPieces sep ps

theorem pieces_ne_nil (sep : Char) (cs : List Char) : pieces sep cs ≠ [] := by
  cases cs with
  | nil => simp [pieces]
  | cons c cs =>
    simp only [pieces]
    split
    · simp
    · cases pieces sep cs <;> simp [consHead]

theorem joinPieces_consHead (sep c : Char) (ps : List (List Char)) :
    joinPieces sep (consHead c ps) = c :: joinPieces sep ps := by
  match ps with
  | [] => rfl
  | [_] => rfl
  | _ :: _ :: _ => rfl

/-- Cutting at separators loses nothing. -/
theorem join_pieces (sep : Char) (cs : List Char) : joinPieces sep (pieces sep cs) = cs := by
  induction cs with
  | nil => rfl
  | cons c cs ih =>
    simp only [pieces]
    split
    · rename_i h
      have := pieces_ne_nil sep cs
      match hp : pieces sep cs with
      | [] => exact absurd hp this
      | p :: ps =>
        rw [hp] at ih
        simp [joinPieces, ih, h]
    · rw [joinPieces_consHead, ih]

def splitOn (sep : Char) (s : String) : List String :=
  (pieces sep s.toList).map String.ofList

/-- The text before and after the first `sep`, when there is one. -/
def splitFirst (sep : Char) : List Char → Option (List Char × List Char)
  | [] => none
  | c :: cs =>
    if c = sep then some ([], cs)
    else (splitFirst sep cs).map fun (a, b) => (c :: a, b)

def splitOnce (sep : Char) (s : String) : Option (String × String) :=
  (splitFirst sep s.toList).map fun (a, b) => (String.ofList a, String.ofList b)

/-! ### Search and replacement -/

/-- The rest of the list behind `front`, when the list starts with it. -/
def dropFront (front cs : List Char) : Option (List Char) :=
  match front, cs with
  | [], cs => some cs
  | _ :: _, [] => none
  | f :: fs, c :: cs => if f = c then dropFront fs cs else none

def occursIn (needle : List Char) : List Char → Bool
  | [] => needle.isEmpty
  | c :: cs => (dropFront needle (c :: cs)).isSome || occursIn needle cs

def contains (s needle : String) : Bool :=
  occursIn needle.toList s.toList

def startsWith (s front : String) : Bool :=
  (dropFront front.toList s.toList).isSome

def endsWith (s back : String) : Bool :=
  (dropFront back.toList.reverse s.toList.reverse).isSome

def replaceChar (c : Char) (form : List Char) (cs : List Char) : List Char :=
  cs.flatMap fun d => if d = c then form else [d]

/-- Replace from left to right, the pending characters of a match being skipped. -/
def replaceFrom (needle form : List Char) : Nat → List Char → List Char
  | _, [] => []
  | skip + 1, _ :: cs => replaceFrom needle form skip cs
  | 0, c :: cs =>
    if (dropFront needle (c :: cs)).isSome then
      form ++ replaceFrom needle form (needle.length - 1) cs
    else c :: replaceFrom needle form 0 cs

/-- Replace every occurrence of a non-empty `needle`, from left to right and
    without overlaps. -/
def replace (s needle form : String) : String :=
  if needle.isEmpty then s
  else String.ofList (replaceFrom needle.toList form.toList 0 s.toList)

/-! ### Lines -/

def dropFinalReturn (line : List Char) : List Char :=
  match line.reverse with
  | '\r' :: rest => rest.reverse
  | _ => line

/-- The lines of a text: each ends at a line feed, a carriage return in front of
    the line feed belongs to the ending, and no line follows a final line feed. -/
def lineChars (cs : List Char) : List (List Char) :=
  let ps := pieces '\n' cs
  let ended := ps.dropLast.map dropFinalReturn
  match ps.getLast? with
  | none => ended
  | some [] => ended
  | some last => ended ++ [last]

def lines (s : String) : List String :=
  (lineChars s.toList).map String.ofList

/-! ### Joining -/

def join (sep : String) : List String → String
  | [] => ""
  | [s] => s
  | s :: ss => s ++ sep ++ join sep ss

theorem join_cons (sep s : String) {ss : List String} (h : ss ≠ []) :
    join sep (s :: ss) = s ++ sep ++ join sep ss := by
  cases ss with
  | nil => exact (h rfl).elim
  | cons t ss => rfl

theorem join_append (sep : String) {ss ts : List String} (hs : ss ≠ []) (ht : ts ≠ []) :
    join sep (ss ++ ts) = join sep ss ++ sep ++ join sep ts := by
  induction ss with
  | nil => exact (hs rfl).elim
  | cons s ss ih =>
    rw [List.cons_append, join_cons sep s (List.append_ne_nil_of_right_ne_nil ss ht)]
    cases ss with
    | nil => rfl
    | cons t ss =>
      rw [ih (List.cons_ne_nil t ss), join_cons sep s (List.cons_ne_nil t ss)]
      simp only [String.append_assoc]

theorem join_ofList (sep : Char) (ps : List (List Char)) :
    join (String.singleton sep) (ps.map String.ofList) = String.ofList (joinPieces sep ps) := by
  induction ps with
  | nil => rfl
  | cons p ps ih =>
    cases ps with
    | nil => rfl
    | cons q ps =>
      have hrest : (q :: ps).map String.ofList ≠ [] := by simp
      rw [List.map_cons, join_cons _ _ hrest, ih]
      simp only [joinPieces, String.ofList_append, String.ofList_cons, String.append_assoc]

/-- Cutting a text at separators loses nothing. -/
theorem join_splitOn (sep : Char) (s : String) :
    join (String.singleton sep) (splitOn sep s) = s := by
  rw [splitOn, join_ofList, join_pieces, String.ofList_toList]

def times : Nat → String → String
  | 0, _ => ""
  | n + 1, s => s ++ times n s

end ClientGen.Text
