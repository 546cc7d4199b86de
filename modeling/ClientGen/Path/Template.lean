/-
  ClientGen/Path/Template.lean
  ============================
  **Path templates such as `users/{id}/posts/{postId}`.**

  A placeholder is an opening brace, at least one character other than a closing
  brace, and the first closing brace behind it.  Everything else is literal text,
  `{}` and an unclosed `{` included.
-/
import ClientGen.Text.Split

namespace ClientGen.Path

open ClientGen.Text

/-! ### Parts -/

inductive Part where
  | literal (text : String)
  | placeholder (name : String)
deriving DecidableEq, Repr, Inhabited

/-- A path cut into literal text and placeholders. -/
structure Template where
  raw : String
  parts : List Part
deriving DecidableEq, Repr, Inhabited

/-! ### Cutting a path -/

/-- The end of a literal run: nothing when the run is empty. -/
def literalRun (run : List Char) : List Part :=
  if run.isEmpty then [] else [.literal (String.ofList run)]

def placeholderName (cs : List Char) : Option (List Char × List Char) :=
  match splitFirst '}' cs with
  | some (c :: name, rest) => some (c :: name, rest)
  | _ => none

theorem splitFirst_length {sep : Char} {cs a b : List Char} (h : splitFirst sep cs = some (a, b)) :
    b.length < cs.length := by
  induction cs generalizing a b with
  | nil => simp [splitFirst] at h
  | cons c cs ih =>
    simp only [splitFirst] at h
    split at h
    · cases h; simp
    · match hs : splitFirst sep cs with
      | none => rw [hs] at h; simp at h
      | some (a', b') =>
        rw [hs] at h
        cases h
        have := ih hs
        simp; omega

theorem placeholderName_length {cs name rest : List Char}
    (h : placeholderName cs = some (name, rest)) : rest.length < cs.length := by
  unfold placeholderName at h
  split at h
  · rename_i hs
    cases h
    exact splitFirst_length hs
  · cases h

/-- The parts of `cs` behind the literal characters `run`. -/
def partsFrom (run : List Char) (cs : List Char) : List Part :=
  match cs with
  | [] => literalRun run
  | c :: cs =>
    if c = '{' then
      match h : placeholderName cs with
      | some (name, rest) =>
        have := placeholderName_length h
        literalRun run ++ .placeholder (String.ofList name) :: partsFrom [] rest
      | none => partsFrom (run ++ [c]) cs
    else partsFrom (run ++ [c]) cs
termination_by cs.length

def Template.parse (raw : String) : Template :=
  ⟨raw, partsFrom [] raw.toList⟩

/-! ### Views -/

def Part.placeholder? : Part → Option String
  | .placeholder name => some name
  | .literal _ => none

/-- Placeholder names in order, repetitions included. -/
def Template.placeholders (t : Template) : List String :=
  t.parts.filterMap Part.placeholder?

def Template.hasPlaceholders (t : Template) : Bool :=
  t.parts.any fun p => p.placeholder?.isSome

def Template.isEmpty (t : Template) : Bool :=
  t.raw.isEmpty

/-- The text of a part when every placeholder stands for `value`. -/
def Part.substitute (value : String) : Part → String
  | .literal text => text
  | .placeholder _ => value

def Template.substituteAll (t : Template) (value : String) : String :=
  String.join (t.parts.map (Part.substitute value))

end ClientGen.Path
