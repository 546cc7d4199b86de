/-
  ClientGen/Json/Reader.lean
  ==========================
  **From tokens to a value.**

  A stack of open brackets and what may come next.  Brackets beyond the depth limit
  are still matched, but what they hold is unreadable.
-/
import ClientGen.Json.Token

namespace ClientGen.Json

/-! ### The machine -/

/-- An open bracket with what has been read inside it, last first. -/
inductive Frame where
  | array (back : List Json)
  | object (sound : Bool) (back : List (String × Json)) (key : String)
deriving Repr

inductive Expected where
  | value
  | valueOrEnd
  | commaOrEnd
  | key
  | keyOrEnd
  | colon
  | nothing (result : Json)
deriving Repr

/-- The open brackets, innermost first, and what may come next. -/
structure Machine where
  frames : List Frame
  expected : Expected
deriving Repr

def maxDepth : Nat := 127

/-- Hand a finished value to the innermost open bracket. -/
def Machine.finish (frames : List Frame) (v : Json) : Machine :=
  match frames with
  | [] => ⟨[], .nothing v⟩
  | .array back :: rest => ⟨.array (v :: back) :: rest, .commaOrEnd⟩
  | .object sound back key :: rest => ⟨.object sound ((key, v) :: back) key :: rest, .commaOrEnd⟩

/-- The value of the innermost bracket, when it may be read. -/
def closed (frames : List Frame) (v : Json) : Json :=
  if frames.length ≤ maxDepth then v else .unreadable

def Machine.beginValue (frames : List Frame) : Token → Option Machine
  | .beginArray => some ⟨.array [] :: frames, .valueOrEnd⟩
  | .beginObject => some ⟨.object true [] "" :: frames, .keyOrEnd⟩
  | .scalar v => some (.finish frames v)
  | .text (some s) => some (.finish frames (.str s))
  | .text none => some (.finish frames .unreadable)
  | _ => none

def Machine.endValue (frames : List Frame) (t : Token) : Option Machine :=
  match frames, t with
  | .array back :: rest, .endArray =>
    some (.finish rest (closed frames (.arr back.reverse)))
  | .object sound back _ :: rest, .endObject =>
    some (.finish rest (closed frames (if sound then .obj back.reverse else .unreadable)))
  | _, _ => none

def Machine.beginMember (frames : List Frame) (t : Token) : Option Machine :=
  match frames, t with
  | .object sound back _ :: rest, .text s =>
    some ⟨.object (sound && s.isSome) back (s.getD "") :: rest, .colon⟩
  | _, _ => none

def Machine.step (m : Machine) (t : Token) : Option Machine :=
  match m.expected, t with
  | .value, t => Machine.beginValue m.frames t
  | .valueOrEnd, .endArray => Machine.endValue m.frames t
  | .valueOrEnd, t => Machine.beginValue m.frames t
  | .commaOrEnd, .comma =>
    match m.frames with
    | .array _ :: _ => some ⟨m.frames, .value⟩
    | .object _ _ _ :: _ => some ⟨m.frames, .key⟩
    | [] => none
  | .commaOrEnd, t => Machine.endValue m.frames t
  | .keyOrEnd, .endObject => Machine.endValue m.frames t
  | .keyOrEnd, t => Machine.beginMember m.frames t
  | .key, t => Machine.beginMember m.frames t
  | .colon, .colon => some ⟨m.frames, .value⟩
  | .colon, _ => none
  | .nothing _, _ => none

def Machine.run (m : Machine) : List Token → Option Machine
  | [] => some m
  | t :: ts =>
    match m.step t with
    | none => none
    | some m => m.run ts

/-! ### Reading -/

def ofTokens? (ts : List Token) : Option Json :=
  match Machine.run ⟨[], .value⟩ ts with
  | some ⟨_, .nothing v⟩ => some v
  | _ => none

def read? (s : String) : Option Json :=
  (tokens? s).bind ofTokens?

end ClientGen.Json
