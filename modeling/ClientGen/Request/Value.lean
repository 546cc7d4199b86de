/-
  ClientGen/Request/Value.lean
  ============================
  **Values of parameters inside guards and loops.**

  Every role that reads a parameter does so here, so nulls and collections are treated
  alike everywhere: one value is used as it is, one that may be null stands inside a
  guard, and elements stand inside a loop.  A parameter always contributes exactly
  one statement.
-/
import ClientGen.Code.Syntax
import ClientGen.Model.Function
import ClientGen.Text.Alphabetic

namespace ClientGen.Request

open ClientGen.Code ClientGen.Text

/-! ### Values -/

def startsName (c : Char) : Bool :=
  isAlphabetic c || c == '_'

def continuesName (c : Char) : Bool :=
  isAlphanumeric c || c == '_'

def isPlainName (code : String) : Bool :=
  match code.toList with
  | [] => false
  | c :: cs => startsName c && (c :: cs).all continuesName

def interpolated (code : String) : String :=
  if isPlainName code then "\"$" ++ code ++ "\"" else "\"$\x7b" ++ code ++ "\x7d\""

/-- A value that is not null where it is used. -/
structure Value where
  /-- The expression that denotes it. -/
  code : String
  isText : Bool
deriving DecidableEq, Repr, Inhabited

def Value.text (v : Value) : String :=
  if v.isText then v.code else interpolated v.code

/-! ### One value or elements -/

/-- The elements of a collection that are not null, the collection itself being
    skipped when it is null. -/
def elementsOf (name : String) (s : TypeShape) : String :=
  let safe := if s.containerNullable then "?" else ""
  name ++ safe ++ (if s.elementNullable then ".filterNotNull()" ++ safe else "")

/-- The statement that `write` gives for a value, run once for every value of the
    parameter that is not null. -/
def eachValue (name : String) (s : TypeShape) (write : Value → Statement) : Statement :=
  let it : Value := ⟨"it", s.isStringValued⟩
  match s.container with
  | .single =>
    if s.containerNullable then .block (.plain (name ++ "?.let") [write it])
    else write ⟨name, s.isStringValued⟩
  | .many => .block (.plain (elementsOf name s ++ ".forEach") [write it])

/-- The shape of a parameter that is used as one object, a collection included. -/
def wholeShape (p : ParameterModel) : TypeShape :=
  ⟨.single, p.type.nullable, p.type, p.type.nullable⟩

/-! ### Entries -/

/-- How an entry, its name and its value are called inside a loop. -/
structure EntryNames where
  item : String
  key : String
  value : String
deriving DecidableEq, Repr

def EntryNames.of (t : TypeRef) : EntryNames :=
  if t.isPair then ⟨"pair", "pair.first", "pair.second"⟩
  else ⟨"entry", "entry.key", "entry.value"⟩

def hasTextValues (t : TypeRef) : Bool :=
  (t.argument? 1).any TypeRef.isString

/-- The values of entries may be null; a star stands for any value. -/
def hasNullableValues (t : TypeRef) : Bool :=
  match t.argument? 1 with
  | some value => value.nullable
  | none => true

def entryStatement (t : TypeRef) (write : String → Value → Statement) : Statement :=
  let names := EntryNames.of t
  if hasNullableValues t then
    .block (.lambda (names.value ++ "?.let") "value"
      [write names.key ⟨"value", hasTextValues t⟩])
  else write names.key ⟨names.value, hasTextValues t⟩

/-- What runs a block on every entry of one pair or one map. -/
def entriesOf (name : String) (t : TypeRef) : String :=
  name ++ (if t.nullable then "?" else "") ++ (if t.isPair then ".let" else ".forEach")

/-- The statement that `write` gives for a name and a value, run once for every entry of
    the parameter whose value is not null. -/
def eachEntry (p : ParameterModel) (write : String → Value → Statement) : Statement :=
  let item := (EntryNames.of p.type).item
  let body := [entryStatement p.type write]
  if !p.isVararg then .block (.lambda (entriesOf p.name p.type) item body)
  else if p.type.isPair then .block (.lambda (p.name ++ ".forEach") item body)
  else
    .block (.lambda (p.name ++ ".forEach") "_map"
      [.block (.lambda (entriesOf "_map" p.type) item body)])

/-! ### Roles -/

def roleStatements (f : FunctionModel) (pick : ParameterModel → Role → Option Statement) :
    List Statement :=
  f.parameters.flatMap fun p => p.roles.filterMap (pick p)

end ClientGen.Request
