/-
  ClientGen/Text/Name.lean
  ========================
  **Rules for names.**

  Simple names and packages of dotted names, the small and capital first letter,
  and the mark `__DEFAULT__` of an annotation argument that was not given.  A package is
  cut off at an offset that is counted segment by segment; the count is that of the
  segments it covers (`Reach.acceptPlain_covers`), so the offset lies within the name.
-/
import ClientGen.Text.Case
import ClientGen.Text.Split

namespace ClientGen.Text

/-! ### Arguments that were not given -/

/-- The value of an annotation argument that was not given. -/
def unsetMark : String := "__DEFAULT__"

def isUnset (value : String) : Bool :=
  value == unsetMark

/-- The value, or `fallback` when it is unset or empty. -/
def nameOr (value fallback : String) : String :=
  if isUnset value || value.isEmpty then fallback else value

/-! ### First letters -/

/-- Small first letter: `BaseApi` becomes `baseApi`. -/
def lowerCamel (name : String) : String :=
  match name.toList with
  | [] => ""
  | c :: cs => String.ofList (lowerChars c ++ cs)

/-- Capital first letter: `userApi` becomes `UserApi`. -/
def upperFirst (name : String) : String :=
  match name.toList with
  | [] => ""
  | c :: cs => String.ofList (upperChars c ++ cs)

/-! ### Dotted names -/

def simpleName (name : String) : String :=
  String.ofList ((pieces '.' name.toList).getLast?.getD [])

/-- The segment starts with an ASCII capital, as class names do. -/
def startsUpper : List Char → Bool
  | [] => false
  | c :: _ => c.isUpper

/-! ### Packages -/

/-- How far the segments of a package reach, as offsets in bytes. -/
structure Reach where
  /-- Behind the last segment. -/
  stop : Nat
  /-- Where the next segment starts, which is beyond the name when none is left. -/
  next : Nat
deriving DecidableEq, Repr

namespace Reach

def accept (r : Reach) (segment : String) : Reach :=
  let stop := r.next + segment.utf8ByteSize
  ⟨stop, stop + 1⟩

/-- Every segment up to the first one that names a class belongs to the package. -/
def acceptPlain (r : Reach) : List String → Reach
  | [] => r
  | s :: ss => if startsUpper s.toList then r else (r.accept s).acceptPlain ss

structure Covers (r : Reach) (front : List String) : Prop where
  stop : r.stop = (join "." front).utf8ByteSize
  next : r.next = if front = [] then 0 else r.stop + 1

variable {r : Reach} {front : List String}

theorem accept_covers (h : r.Covers front) (s : String) :
    (r.accept s).Covers (front ++ [s]) := by
  have hstop : r.next + s.utf8ByteSize = (join "." (front ++ [s])).utf8ByteSize := by
    cases front with
    | nil =>
      rw [h.next, if_pos rfl, Nat.zero_add]
      rfl
    | cons t front =>
      have hfront := List.cons_ne_nil t front
      rw [h.next, if_neg hfront, h.stop, join_append "." hfront (List.cons_ne_nil s []),
        String.utf8ByteSize_append, String.utf8ByteSize_append]
      rfl
  exact ⟨hstop, (if_neg (List.append_ne_nil_of_right_ne_nil _ (List.cons_ne_nil s []))).symm⟩

theorem acceptPlain_covers (h : r.Covers front) (ss : List String) :
    (r.acceptPlain ss).Covers (front ++ ss.takeWhile fun s => !startsUpper s.toList) := by
  -- The segments that were accepted so far move to the end of `front`.
  induction ss generalizing r front with
  | nil =>
    rw [List.takeWhile_nil, List.append_nil]
    exact h
  | cons s ss ih =>
    rw [acceptPlain]
    by_cases hupper : startsUpper s.toList = true
    · rw [if_pos hupper, List.takeWhile_cons_of_neg (by simp [hupper]), List.append_nil]
      exact h
    · rw [if_neg hupper, List.takeWhile_cons_of_pos (by simp [hupper]), List.append_cons]
      exact ih (accept_covers h s)

end Reach

def packageEnd (name : String) : Nat :=
  (Reach.acceptPlain ⟨0, 0⟩ (splitOn '.' name)).stop

def packageSegments (name : String) : List String :=
  (splitOn '.' name).takeWhile fun s => !startsUpper s.toList

theorem packageSegments_isPrefix (name : String) : packageSegments name <+: splitOn '.' name :=
  List.takeWhile_prefix _

theorem packageEnd_eq (name : String) :
    packageEnd name = (join "." (packageSegments name)).utf8ByteSize := by
  have hstart : Reach.Covers ⟨0, 0⟩ [] := ⟨rfl, rfl⟩
  exact (Reach.acceptPlain_covers hstart (splitOn '.' name)).stop

/-- The segments of the package are the front of the name; a dot divides them from what
    is left of it. -/
theorem exists_behind_package (name : String) :
    ∃ behind, name = join "." (packageSegments name) ++ behind
      ∧ (packageSegments name = [] ∨ behind = "" ∨ ∃ rest, behind = "." ++ rest) := by
  obtain ⟨rest, hsplit⟩ := packageSegments_isPrefix name
  have hname : join "." (packageSegments name ++ rest) = name := by
    rw [hsplit]
    exact join_splitOn '.' name
  by_cases hfront : packageSegments name = []
  · refine ⟨name, ?_, .inl hfront⟩
    rw [hfront]
    exact String.empty_append.symm
  · by_cases hrest : rest = []
    · rw [hrest, List.append_nil] at hname
      exact ⟨"", by rw [hname, String.append_empty], .inr (.inl rfl)⟩
    · rw [join_append "." hfront hrest, String.append_assoc] at hname
      exact ⟨"." ++ join "." rest, hname.symm, .inr (.inr ⟨_, rfl⟩)⟩

/-- The offset behind the package is a place between two characters of the name. -/
theorem isValid_packageEnd (name : String) :
    (⟨packageEnd name⟩ : String.Pos.Raw).IsValid name := by
  obtain ⟨behind, hname, -⟩ := exists_behind_package name
  refine String.Pos.Raw.isValid_iff_exists_append.mpr ⟨_, behind, hname, ?_⟩
  rw [packageEnd_eq]
  rfl

/-- The part of a name in front of the first segment that names a class. -/
def packageOf (name : String) : String :=
  (name.sliceTo (name.pos ⟨packageEnd name⟩ (isValid_packageEnd name))).copy

theorem packageOf_eq (name : String) : packageOf name = join "." (packageSegments name) := by
  obtain ⟨behind, hname, -⟩ := exists_behind_package name
  have hsplits : (name.pos ⟨packageEnd name⟩ (isValid_packageEnd name)).Splits
      (join "." (packageSegments name)) behind :=
    ⟨hname, String.Pos.Raw.ext (packageEnd_eq name)⟩
  exact hsplits.copy_sliceTo_eq

end ClientGen.Text
