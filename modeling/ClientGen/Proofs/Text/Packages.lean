/-
  ClientGen/Proofs/Text/Packages.lean
  ===================================
  **The package of a dotted name.**

  Dots cut a name into segments in one way only (`areSegments_iff`), empty segments included.
  The package is the longest front of them in which no segment names a class, and the offset
  at which it is cut off lies within the name, where one of the segments ends
  (`packageOf_exact`).
-/
import ClientGen.Proofs.Text.Pieces
import Mathlib.Data.List.TakeWhile

namespace ClientGen.Text

/-- The texts between the dots of a name: there is at least one, and any may be empty. -/
structure AreSegments (segments : List String) (name : String) : Prop where
  nonempty : segments ≠ []
  dotless : ∀ s ∈ segments, '.' ∉ s.toList
  joined : join "." segments = name

/-- Names of classes start with an ASCII capital. -/
def NamesClass (segment : String) : Prop :=
  ∃ c rest, segment.toList = c :: rest ∧ 'A' ≤ c ∧ c ≤ 'Z'

/-- The longest front of the segments in which none names a class. -/
structure IsPackage (front segments : List String) : Prop where
  starts : front <+: segments
  plain : ∀ s ∈ front, ¬ NamesClass s
  longest : ∀ other, other <+: segments → (∀ s ∈ other, ¬ NamesClass s) → other <+: front

/-- The front of the name ends where a segment ends: nothing or a dot comes next. -/
def EndsSegment (front name : String) : Prop :=
  name = front ∨ ∃ rest, name = front ++ "." ++ rest

/-! ### Segments -/

/-- Texts without the separator are found again in what is joined from them. -/
theorem splitOn_join {sep : Char} {ss : List String} (hne : ss ≠ [])
    (h : ∀ s ∈ ss, sep ∉ s.toList) : splitOn sep (join (String.singleton sep) ss) = ss := by
  induction ss with
  | nil => exact (hne rfl).elim
  | cons s ss ih =>
    obtain ⟨hs, hss⟩ := List.forall_mem_cons.mp h
    by_cases hrest : ss = []
    · rw [hrest]
      exact splitOn_of_not_mem hs
    · rw [join_cons _ _ hrest, splitOn_append, splitOn_of_not_mem hs, ih hrest hss,
        List.singleton_append]

theorem areSegments_iff {segments : List String} {name : String} :
    AreSegments segments name ↔ segments = splitOn '.' name := by
  constructor
  · rintro ⟨hne, hdotless, rfl⟩
    exact (splitOn_join hne hdotless).symm
  · rintro rfl
    refine ⟨?_, ?_, join_splitOn '.' name⟩
    · exact fun h => pieces_ne_nil '.' name.toList (List.map_eq_nil_iff.mp h)
    · intro s hs
      obtain ⟨p, hp, rfl⟩ := List.mem_map.mp hs
      rw [String.toList_ofList]
      exact not_mem_of_mem_pieces hp

/-! ### The longest front -/

theorem startsUpper_iff {segment : String} :
    startsUpper segment.toList = true ↔ NamesClass segment := by
  have hupper : ∀ c : Char, c.isUpper = true ↔ 'A' ≤ c ∧ c ≤ 'Z' := fun _ => decide_eq_true_iff
  unfold NamesClass
  cases segment.toList with
  | nil => simp [startsUpper]
  | cons c cs =>
    rw [startsUpper, hupper]
    constructor
    · exact fun h => ⟨c, cs, rfl, h⟩
    · rintro ⟨d, ds, hsame, hd⟩
      rw [(List.cons.inj hsame).1]
      exact hd

theorem isPackage_packageSegments (name : String) :
    IsPackage (packageSegments name) (splitOn '.' name) := by
  refine ⟨packageSegments_isPrefix name, ?_, ?_⟩
  · intro s hs hclass
    have hplain := List.mem_takeWhile_imp (p := fun s : String => !startsUpper s.toList) hs
    rw [startsUpper_iff.mpr hclass] at hplain
    cases hplain
  · rintro other ⟨rest, hrest⟩ hplain
    have hall : ∀ s ∈ other, (!startsUpper s.toList) = true := by
      intro s hs
      rw [Bool.not_eq_true', ← Bool.not_eq_true, startsUpper_iff]
      exact hplain s hs
    rw [packageSegments, ← hrest, List.takeWhile_append_of_pos hall]
    exact List.prefix_append _ _

/-! ### The offset behind the package -/

theorem size_packageOf (name : String) : (packageOf name).utf8ByteSize = packageEnd name := by
  rw [packageOf_eq, packageEnd_eq]

theorem packageOf_endsSegment {name : String} (h : packageSegments name ≠ []) :
    EndsSegment (packageOf name) name := by
  obtain ⟨behind, hname, hbehind⟩ := exists_behind_package name
  rw [← packageOf_eq] at hname
  rcases hbehind.resolve_left h with rfl | ⟨rest, rfl⟩
  · exact .inl (by rwa [String.append_empty] at hname)
  · exact .inr ⟨rest, by rwa [← String.append_assoc] at hname⟩

/-- The package of a name is joined from the longest front of its segments in which none
    names a class.  Unless that front is empty, the package ends where a segment of the name
    ends; the offset at which it is cut off is its size, lies within the name and is a place
    between two of its characters. -/
theorem packageOf_exact (name : String) :
    ∃ segments front, (∀ others, AreSegments others name ↔ others = segments)
      ∧ IsPackage front segments
      ∧ packageOf name = join "." front
      ∧ (front = [] ∨ EndsSegment (packageOf name) name)
      ∧ (packageOf name).utf8ByteSize = packageEnd name
      ∧ packageEnd name ≤ name.utf8ByteSize
      ∧ (⟨packageEnd name⟩ : String.Pos.Raw).IsValid name := by
  have hvalid := isValid_packageEnd name
  refine ⟨splitOn '.' name, packageSegments name, fun _ => areSegments_iff,
    isPackage_packageSegments name, packageOf_eq name, ?_, size_packageOf name,
    String.Pos.Raw.le_iff.mp hvalid.le_rawEndPos, hvalid⟩
  by_cases hfront : packageSegments name = []
  · exact .inl hfront
  · exact .inr (packageOf_endsSegment hfront)

-- Segments may be empty at either end, a capital beyond ASCII names no class, and nothing
-- but the first segment that names a class decides.
example :
    packageOf "com.example.Outer.inner" = "com.example" ∧ packageOf "Outer.inner" = ""
      ∧ packageOf ".A" = "" ∧ packageOf "a..B" = "a." ∧ packageOf "é.Éa." = "é.Éa." := by
  decide +kernel

end ClientGen.Text
