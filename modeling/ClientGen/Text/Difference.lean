/-
  ClientGen/Text/Difference.lean
  ==============================
  **Line differences of two texts.**

  A script of edits keeps as many lines as possible.  It is found line by line from the
  end: a common line is always kept, and otherwise the better of the two scripts that
  drop an old line or add a new one goes on.
-/
import ClientGen.Text.Split

namespace ClientGen.Text

/-! ### Lines with their endings -/

def consLine (line : List Char) (rest : List (List Char)) : List (List Char) :=
  if line.isEmpty then rest else line :: rest

/-- The lines of a text, each with the line feed, the carriage return or both that end
    it; `run` holds the characters of the line so far. -/
def endedLinesFrom (run : List Char) : List Char → List (List Char)
  | [] => consLine run []
  | '\r' :: '\n' :: cs => (run ++ ['\r', '\n']) :: endedLinesFrom [] cs
  | c :: cs =>
    if c = '\n' ∨ c = '\r' then (run ++ [c]) :: endedLinesFrom [] cs
    else endedLinesFrom (run ++ [c]) cs

def endedLines (s : String) : List String :=
  (endedLinesFrom [] s.toList).map String.ofList

/-! ### Edits -/

inductive Edit where
  | keep (line : String)
  | drop (line : String)
  | add (line : String)
deriving DecidableEq, Repr, Inhabited

/-- Edits with the number of lines that they keep. -/
structure EditScript where
  kept : Nat
  edits : List Edit
deriving DecidableEq, Repr, Inhabited

/-- The scripts from no old lines to every end of the new lines. -/
def additions : List String → List EditScript
  | [] => [⟨0, []⟩]
  | n :: ns =>
    let rest := additions ns
    ⟨0, .add n :: (rest.headD default).edits⟩ :: rest

/-- The better of dropping an old line, with script `below` behind it, and of adding a new
    one, with script `right` behind it. -/
def betterScript (o n : String) (below right : EditScript) : EditScript :=
  if right.kept ≤ below.kept then ⟨below.kept, .drop o :: below.edits⟩
  else ⟨right.kept, .add n :: right.edits⟩

/-- The scripts from an old line and what follows it to every end of the new lines, from
    the scripts `below` of what follows it. -/
def scriptsFrom (o : String) : List String → List EditScript → List EditScript
  | n :: ns, below :: belows =>
    let rest := scriptsFrom o ns belows
    let right := rest.headD default
    let diagonal := belows.headD default
    (if o = n then ⟨diagonal.kept + 1, .keep o :: diagonal.edits⟩
      else betterScript o n below right) :: rest
  | [], below :: _ => [⟨0, .drop o :: below.edits⟩]
  | _, [] => []

def scripts (old new : List String) : List EditScript :=
  match old with
  | [] => additions new
  | o :: os => scriptsFrom o new (scripts os new)

def commonStart : List String → List String → Nat
  | o :: os, n :: ns => if o = n then commonStart os ns + 1 else 0
  | _, _ => 0

def coreEdits (old new : List String) : List Edit :=
  ((scripts old new).headD default).edits

/-- The edits that lead from old lines to new lines; what both have in common at the
    start, and then at the end, is kept. -/
def lineEdits (old new : List String) : List Edit :=
  let start := commonStart old new
  let old' := old.drop start
  let new' := new.drop start
  let back := commonStart old'.reverse new'.reverse
  (old.take start).map .keep
    ++ coreEdits (old'.take (old'.length - back)) (new'.take (new'.length - back))
    ++ (old'.drop (old'.length - back)).map .keep

/-! ### Runs -/

/-- Lines that are kept, or lines that are dropped and lines that take their place. -/
inductive LineRun where
  | kept (lines : List String)
  | changed (dropped added : List String)
deriving DecidableEq, Repr, Inhabited

def consEdit : Edit → List LineRun → List LineRun
  | .keep line, .kept lines :: rs => .kept (line :: lines) :: rs
  | .keep line, rs => .kept [line] :: rs
  | .drop line, .changed dropped added :: rs => .changed (line :: dropped) added :: rs
  | .drop line, rs => .changed [line] [] :: rs
  | .add line, .changed dropped added :: rs => .changed dropped (line :: added) :: rs
  | .add line, rs => .changed [] [line] :: rs

def lineRuns : List Edit → List LineRun
  | [] => []
  | e :: es => consEdit e (lineRuns es)

/-! ### Groups of changes -/

def contextSize : Nat := 3

def takeLast (n : Nat) (lines : List String) : List String :=
  lines.drop (lines.length - n)

def shortenStart : List LineRun → List LineRun
  | .kept lines :: rs => .kept (takeLast contextSize lines) :: rs
  | rs => rs

def shortenEnd : List LineRun → List LineRun
  | [] => []
  | [.kept lines] => [.kept (lines.take contextSize)]
  | r :: rs => r :: shortenEnd rs

def isUnchanged : List LineRun → Bool
  | [] | [.kept _] => true
  | _ => false

/-- Cut runs where many lines are kept; `group` holds the runs of the group so far. -/
def groupsFrom (group : List LineRun) : List LineRun → List (List LineRun)
  | [] => if isUnchanged group then [] else [group]
  | .kept lines :: rs =>
    if 2 * contextSize < lines.length then
      (group ++ [.kept (lines.take contextSize)])
        :: groupsFrom [.kept (takeLast contextSize lines)] rs
    else groupsFrom (group ++ [.kept lines]) rs
  | r :: rs => groupsFrom (group ++ [r]) rs

def changeGroups (runs : List LineRun) : List (List LineRun) :=
  groupsFrom [] (shortenEnd (shortenStart runs))

/-! ### Writing -/

def isEnded (line : String) : Bool :=
  endsWith line "\n" || endsWith line "\r"

def markedLine (mark line : String) : String :=
  mark ++ line ++ (if isEnded line then "" else "\n")

def markedLines (mark : String) (lines : List String) : String :=
  String.join (lines.map (markedLine mark))

def LineRun.text : LineRun → String
  | .kept lines => markedLines " " lines
  | .changed dropped added => markedLines "-" dropped ++ markedLines "+" added

/-- The changes that lead from an old text to a new one, groups set apart by an
    ellipsis. -/
def differenceText (old new : String) : String :=
  join "...\n" ((changeGroups (lineRuns (lineEdits (endedLines old) (endedLines new)))).map
    fun group => String.join (group.map LineRun.text))

end ClientGen.Text
