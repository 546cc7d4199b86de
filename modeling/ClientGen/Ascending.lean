/-
  ClientGen/Ascending.lean
  ========================
  **Lists in ascending order of names.**

  A map is a list of entries and a set a list of names, each name once, in
  ascending order of code points.
-/

namespace ClientGen.Ascending

/-! ### Maps -/

/-- Put a value under a name; the last value stays. -/
def put {α : Type} (name : String) (value : α) : List (String × α) → List (String × α)
  | [] => [(name, value)]
  | (n, v) :: rest =>
    if name < n then (name, value) :: (n, v) :: rest
    else if name = n then (name, value) :: rest
    else (n, v) :: put name value rest

/-- The entries in ascending order, the last value of each name. -/
def ofEntries {α : Type} (entries : List (String × α)) : List (String × α) :=
  entries.foldl (fun sorted e => put e.1 e.2 sorted) []

def erase {α : Type} (name : String) (entries : List (String × α)) : List (String × α) :=
  entries.filter fun e => e.1 != name

/-! ### Sets -/

def putName (name : String) : List String → List String
  | [] => [name]
  | n :: rest =>
    if name < n then name :: n :: rest
    else if name = n then n :: rest
    else n :: putName name rest

def ofNames (names : List String) : List String :=
  names.foldl (fun sorted n => putName n sorted) []

end ClientGen.Ascending
