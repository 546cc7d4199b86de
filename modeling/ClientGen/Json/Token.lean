/-
  ClientGen/Json/Token.lean
  =========================
  **Tokens of the text layer.**

  One pass over the characters with three states: between tokens, inside quotes,
  inside a word.  A word is a numeral or one of `true`, `false` and `null`.
-/
import ClientGen.Json.Numeral
import ClientGen.Json.Quoted

namespace ClientGen.Json

/-- A token.  The text of a string is missing when it has no value. -/
inductive Token where
  | beginArray
  | endArray
  | beginObject
  | endObject
  | comma
  | colon
  | text (s : Option String)
  | scalar (v : Json)
deriving Repr

/-- Where the pass stands; characters of an open token are kept last first. -/
inductive LexState where
  | between
  | quoted (escaped : Bool) (back : List Char)
  | word (back : List Char)
deriving DecidableEq, Repr

/-- The four characters that may separate tokens. -/
def isSpace (c : Char) : Bool :=
  c == ' ' || c == '\t' || c == '\n' || c == '\r'

def punctuation? : Char → Option Token
  | '[' => some .beginArray
  | ']' => some .endArray
  | '{' => some .beginObject
  | '}' => some .endObject
  | ',' => some .comma
  | ':' => some .colon
  | _ => none

def wordValue? (cs : List Char) : Option Json :=
  if cs = "true".toList then some (.bool true)
  else if cs = "false".toList then some (.bool false)
  else if cs = "null".toList then some .null
  else (Numeral.ofChars? cs).map Numeral.value

/-- One character between tokens: the next state and the finished token. -/
def stepBetween (c : Char) : LexState × Option Token :=
  if isSpace c then (.between, none)
  else if c = '"' then (.quoted false [], none)
  else
    match punctuation? c with
    | some t => (.between, some t)
    | none => (.word [c], none)

def endsWord (c : Char) : Bool :=
  isSpace c || c == '"' || (punctuation? c).isSome

def tokensFrom : LexState → List Char → Option (List Token)
  | .between, [] => some []
  | .quoted _ _, [] => none
  | .word back, [] => (wordValue? back.reverse).map fun v => [.scalar v]
  | .between, c :: cs =>
    match stepBetween c with
    | (state, none) => tokensFrom state cs
    | (state, some t) => (tokensFrom state cs).map (t :: ·)
  | .quoted true back, c :: cs => tokensFrom (.quoted false (c :: back)) cs
  | .quoted false back, c :: cs =>
    if c = '"' then
      match unquote back.reverse with
      | none => none
      | some s => (tokensFrom .between cs).map (.text s :: ·)
    else tokensFrom (.quoted (c == '\\') (c :: back)) cs
  | .word back, c :: cs =>
    if endsWord c then
      match wordValue? back.reverse, stepBetween c with
      | none, _ => none
      | some v, (state, none) => (tokensFrom state cs).map (.scalar v :: ·)
      | some v, (state, some t) => (tokensFrom state cs).map fun ts => .scalar v :: t :: ts
    else tokensFrom (.word (c :: back)) cs

def tokens? (s : String) : Option (List Token) :=
  tokensFrom .between s.toList

end ClientGen.Json
