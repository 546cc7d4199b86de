/-
  ClientGen/Json/Printer.lean
  ===========================
  **Writing values as text.**

  The compact form has no blanks; the indented form puts each item and member on a
  line of its own, two blanks deeper than its bracket, and empty brackets together.
-/
import ClientGen.Json.Quoted
import ClientGen.Text.Split

namespace ClientGen.Json

open ClientGen.Text

/-- The written form of a value without inner parts. -/
def scalarText : Json → String
  | .bool true => "true"
  | .bool false => "false"
  | .int n => toString n
  | .float x => x.dataText
  | .str s => quote s
  | _ => "null"

/-! ### Compact form -/

mutual
def compact : Json → String
  | .arr items => "[" ++ join "," (compactItems items) ++ "]"
  | .obj members => "\x7b" ++ join "," (compactMembers members) ++ "\x7d"
  | v => scalarText v

def compactItems : List Json → List String
  | [] => []
  | v :: vs => compact v :: compactItems vs

def compactMembers : List (String × Json) → List String
  | [] => []
  | (k, v) :: ms => (quote k ++ ":" ++ compact v) :: compactMembers ms
end

/-! ### Indented form -/

def bracketed (opening closing : String) (depth : Nat) (rows : List String) : String :=
  if rows.isEmpty then opening ++ closing
  else
    let inner := "\n" ++ times (depth + 1) "  "
    opening ++ inner ++ join ("," ++ inner) rows ++ "\n" ++ times depth "  " ++ closing

mutual
/-- The indented form inside `depth` brackets. -/
def indented (depth : Nat) : Json → String
  | .arr items => bracketed "[" "]" depth (indentedItems (depth + 1) items)
  | .obj members => bracketed "\x7b" "\x7d" depth (indentedMembers (depth + 1) members)
  | v => scalarText v

def indentedItems (depth : Nat) : List Json → List String
  | [] => []
  | v :: vs => indented depth v :: indentedItems depth vs

def indentedMembers (depth : Nat) : List (String × Json) → List String
  | [] => []
  | (k, v) :: ms => (quote k ++ ": " ++ indented depth v) :: indentedMembers depth ms
end

end ClientGen.Json
