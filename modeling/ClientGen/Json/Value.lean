/-
  ClientGen/Json/Value.lean
  =========================
  **Values of the declaration format's text layer.**

  Object members keep their written order and repetitions, because a repeated
  field is an error for a record but not for a map.  `unreadable` stands for text
  that is well formed and yet denotes no value: it does no harm where nothing reads
  it and fails where something does.
-/
import ClientGen.Decimal.Shortest

namespace ClientGen

open ClientGen.Decimal

inductive Json where
  | null
  | bool (b : Bool)
  | int (n : Int)
  | float (x : Binary64)
  | str (s : String)
  | arr (items : List Json)
  | obj (members : List (String × Json))
  | unreadable
deriving Repr, Inhabited

namespace Json

/-! ### Readability -/

mutual
/-- Nothing inside the value is unreadable. -/
def readable : Json → Bool
  | .unreadable => false
  | .arr items => allReadable items
  | .obj members => membersReadable members
  | _ => true

def allReadable : List Json → Bool
  | [] => true
  | v :: vs => readable v && allReadable vs

def membersReadable : List (String × Json) → Bool
  | [] => true
  | (_, v) :: ms => readable v && membersReadable ms
end

/-! ### Parts -/

/-- A value that is smaller than `j`, as every item and member of `j` is. -/
abbrev Part (j : Json) : Type := { v : Json // sizeOf v < sizeOf j }

def items? : (j : Json) → Option (List (Part j))
  | .arr items => some (items.attach.map fun v =>
      ⟨v.1, by have := List.sizeOf_lt_of_mem v.2; simp; omega⟩)
  | _ => none

theorem sizeOf_member_lt {ms : List (String × Json)} {m : String × Json} (h : m ∈ ms) :
    sizeOf m.2 < sizeOf (Json.obj ms) := by
  have h₁ := List.sizeOf_lt_of_mem h
  have h₂ : sizeOf m = 1 + sizeOf m.1 + sizeOf m.2 := by cases m; rfl
  simp only [Json.obj.sizeOf_spec]
  omega

def members? : (j : Json) → Option (List (String × Part j))
  | .obj ms => some (ms.attach.map fun m => (m.1.1, ⟨m.1.2, sizeOf_member_lt m.2⟩))
  | _ => none

/-! ### Records -/

/-- The value of a record field, when it is given. -/
abbrev Slot (j : Json) : Type := Option (Part j)

/-- Fields by position: trailing fields may be left out. -/
def padSlots {j : Json} : List String → List (Part j) → Option (List (Slot j))
  | [], [] => some []
  | [], _ :: _ => none
  | _ :: names, [] => (padSlots names []).map (none :: ·)
  | _ :: names, v :: vs => (padSlots names vs).map (some v :: ·)

/-- The slots of the named fields.  An object gives each field at most once and may
    have further members; an array gives the fields in order. -/
def slots? (j : Json) (names : List String) : Option (List (Slot j)) :=
  match j.members?, j.items? with
  | some ms, _ =>
    if names.all fun n => (ms.filter fun m => m.1 == n).length ≤ 1 then
      some (names.map fun n => ms.lookup n)
    else none
  | none, some items => padSlots names items
  | none, none => none

/-- The slots of the named fields of an object; an array is no such record. -/
def objectSlots? (j : Json) (names : List String) : Option (List (Slot j)) :=
  if j.members?.isSome then j.slots? names else none

def Slot.required {α : Type} {j : Json} (s : Slot j) (f : Part j → Option α) : Option α :=
  match s with
  | none => none
  | some v => f v

def Slot.orElse {α : Type} {j : Json} (s : Slot j) (default : α) (f : Part j → Option α) :
    Option α :=
  match s with
  | none => some default
  | some v => f v

def Slot.optional {α : Type} {j : Json} (s : Slot j) (f : Part j → Option α) :
    Option (Option α) :=
  match s with
  | none => some none
  | some ⟨.null, _⟩ => some none
  | some v => (f v).map some

def Part.each {α : Type} {j : Json} (v : Part j) (f : Part j → Option α) : Option (List α) :=
  match v.1.items? with
  | none => none
  | some items => items.mapM fun w => f ⟨w.1, Nat.lt_trans w.2 v.2⟩

/-! ### Scalars -/

def text? : Json → Option String
  | .str s => some s
  | _ => none

def bool? : Json → Option Bool
  | .bool b => some b
  | _ => none

def get? (j : Json) (key : String) : Option Json :=
  match j with
  | .obj ms => ms.lookup key
  | _ => none

end Json

end ClientGen
