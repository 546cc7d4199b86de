/-
  ClientGen/Json/Quoted.lean
  ==========================
  **Text between double quotes.**

  Reading goes in two steps: escapes are undone to characters and 16-bit units,
  then neighbouring units are joined to characters.  A unit that finds no partner
  leaves the text without a value.
-/
import ClientGen.Json.Value

namespace ClientGen.Json

/-! ### Escapes -/

/-- What an escape or a plain character stands for. -/
inductive Unit16 where
  | char (c : Char)
  | unit (n : Nat)
deriving DecidableEq, Repr

def hexValue (c : Char) : Option Nat :=
  if '0' ≤ c ∧ c ≤ '9' then some (c.toNat - '0'.toNat)
  else if 'a' ≤ c ∧ c ≤ 'f' then some (c.toNat - 'a'.toNat + 10)
  else if 'A' ≤ c ∧ c ≤ 'F' then some (c.toNat - 'A'.toNat + 10)
  else none

def hexUnit (a b c d : Char) : Option Nat := do
  return (((← hexValue a) * 16 + (← hexValue b)) * 16 + (← hexValue c)) * 16 + (← hexValue d)

def shortEscape : Char → Option Char
  | '"' => some '"'
  | '\\' => some '\\'
  | '/' => some '/'
  | 'b' => some (Char.ofNat 8)
  | 'f' => some (Char.ofNat 12)
  | 'n' => some '\n'
  | 'r' => some '\r'
  | 't' => some '\t'
  | _ => none

/-- Undo the escapes between two quotes; nothing when one is malformed or a control
    character stands for itself. -/
def undoEscapes : List Char → Option (List Unit16)
  | [] => some []
  | '\\' :: 'u' :: a :: b :: c :: d :: rest =>
    match hexUnit a b c d, undoEscapes rest with
    | some n, some us => some (.unit n :: us)
    | _, _ => none
  | '\\' :: e :: rest =>
    match shortEscape e, undoEscapes rest with
    | some c, some us => some (.char c :: us)
    | _, _ => none
  | c :: rest =>
    if c.toNat < 0x20 ∨ c = '\\' then none else (undoEscapes rest).map (.char c :: ·)

/-! ### Units -/

/-- The unit opens a pair. -/
def isLeading (n : Nat) : Bool := 0xD800 ≤ n && n < 0xDC00

/-- The unit closes a pair. -/
def isTrailing (n : Nat) : Bool := 0xDC00 ≤ n && n < 0xE000

/-- Join units to characters; nothing when a unit of a pair stands alone. -/
def joinUnits : List Unit16 → Option (List Char)
  | [] => some []
  | .char c :: us => (joinUnits us).map (c :: ·)
  | .unit n :: .unit m :: us =>
    if isLeading n then
      if isTrailing m then
        (joinUnits us).map (Char.ofNat (0x10000 + (n - 0xD800) * 0x400 + (m - 0xDC00)) :: ·)
      else none
    else if isTrailing n then none
    else (joinUnits (.unit m :: us)).map (Char.ofNat n :: ·)
  | .unit n :: us =>
    if isLeading n || isTrailing n then none else (joinUnits us).map (Char.ofNat n :: ·)

/-- Read the characters between two quotes.  The outer result is nothing when they
    are malformed, the inner one when they have no value. -/
def unquote (cs : List Char) : Option (Option String) :=
  (undoEscapes cs).map fun us => (joinUnits us).map String.ofList

/-! ### Writing -/

def hexDigit (n : Nat) : Char :=
  if n < 10 then Char.ofNat ('0'.toNat + n) else Char.ofNat ('a'.toNat + n - 10)

def quoteChar (c : Char) : List Char :=
  if c = '"' then ['\\', '"']
  else if c = '\\' then ['\\', '\\']
  else if c = '\n' then ['\\', 'n']
  else if c = '\r' then ['\\', 'r']
  else if c = '\t' then ['\\', 't']
  else if c.toNat = 8 then ['\\', 'b']
  else if c.toNat = 12 then ['\\', 'f']
  else if c.toNat < 0x20 then
    ['\\', 'u', '0', '0', hexDigit (c.toNat / 16), hexDigit (c.toNat % 16)]
  else [c]

def quote (s : String) : String :=
  "\"" ++ String.ofList (s.toList.flatMap quoteChar) ++ "\""

end ClientGen.Json
