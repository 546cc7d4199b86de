/-
  ClientGen/Proofs/CommandLine/FileTree.lean
  ==========================================
  **File trees before and after files are written.**

  A tree is compared with a later one place by place.  Creating directories puts
  directories where nothing was (`GrowsTo`), writing a file changes one place, and neither
  takes a directory away, so a path goes on leading to the same place
  (`KeepsDirectories.walk`).  Written in order with the directories around them, files lie
  over the old tree (`LaidOver`).
-/
import ClientGen.CommandLine.FileTree

namespace ClientGen.CommandLine.FileTree

/-! ### Single places -/

section Put

variable (t : FileTree) (content : Option String) {place q : Place}

theorem at?_of_isGround (h : isGround place = true) : t.at? place = some none :=
  if_pos h

theorem lookup_filter (keep : Place → Bool) (nodes : List (Place × Option String)) :
    (nodes.filter fun n => keep n.1).lookup q = if keep q then nodes.lookup q else none := by
  induction nodes with
  | nil => simp
  | cons n nodes ih =>
    obtain ⟨there, found⟩ := n
    by_cases hq : q = there
    · rw [hq] at ih ⊢
      cases hkeep : keep there <;> simp [hkeep, ih]
    · have hne : (q == there) = false := beq_eq_false_iff_ne.mpr hq
      cases hkeep : keep there <;> simp [hkeep, List.lookup_cons, hne, ih]

theorem at?_put_self (h : isGround place = false) :
    (t.put place content).at? place = some content := by
  unfold at? put
  rw [if_neg (by rw [h]; decide), List.lookup_append, lookup_filter (· != place)]
  simp

theorem at?_put_of_ne (h : q ≠ place) : (t.put place content).at? q = t.at? q := by
  have hne : (q == place) = false := beq_eq_false_iff_ne.mpr h
  unfold at? put
  rw [List.lookup_append, lookup_filter (· != place), List.lookup_cons, hne]
  simp [h]

end Put

/-! ### Trees that grow -/

/-- What is new in the later tree are directories, and nothing else has changed. -/
def GrowsTo (t t' : FileTree) : Prop :=
  ∀ place, t'.at? place = t.at? place ∨ (t.at? place = none ∧ t'.at? place = some none)

/-- A directory stays a directory. -/
def KeepsDirectories (t t' : FileTree) : Prop :=
  ∀ place, t.at? place = some none → t'.at? place = some none

section Trees

variable {t t' t'' : FileTree} {place q : Place} {parts : List String}

theorem GrowsTo.refl (t : FileTree) : t.GrowsTo t :=
  fun _ => .inl rfl

theorem GrowsTo.trans (h : t.GrowsTo t') (h' : t'.GrowsTo t'') : t.GrowsTo t'' := by
  intro place
  rcases h' place with hsame' | ⟨hnone', hnew'⟩
  · rcases h place with hsame | ⟨hnone, hnew⟩
    · exact .inl (hsame'.trans hsame)
    · exact .inr ⟨hnone, hsame'.trans hnew⟩
  · rcases h place with hsame | ⟨hnone, hnew⟩
    · exact .inr ⟨hsame.symm.trans hnone', hnew'⟩
    · rw [hnew] at hnone'
      cases hnone'

theorem GrowsTo.keepsDirectories (h : t.GrowsTo t') : t.KeepsDirectories t' := by
  intro place hplace
  rcases h place with hsame | ⟨hnone, _⟩
  · exact hsame.trans hplace
  · rw [hnone] at hplace
    cases hplace

theorem KeepsDirectories.trans (h : t.KeepsDirectories t') (h' : t'.KeepsDirectories t'') :
    t.KeepsDirectories t'' :=
  fun place hplace => h' place (h place hplace)

/-- Paths pass through directories alone, so they lead where they led before. -/
theorem KeepsDirectories.walk (h : t.KeepsDirectories t') (hwalk : t.walk place parts = .ok q) :
    t'.walk place parts = .ok q := by
  induction parts generalizing place with
  | nil => exact hwalk
  | cons part parts ih =>
    simp only [FileTree.walk] at hwalk ⊢
    cases hplace : t.at? place with
    | none => rw [hplace] at hwalk; cases hwalk
    | some found =>
      cases found with
      | some content => rw [hplace] at hwalk; cases hwalk
      | none =>
        rw [hplace] at hwalk
        rw [h place hplace]
        by_cases hlong : longestName < part.utf8ByteSize
        · simp only [if_pos hlong] at hwalk
          cases hwalk
        · simp only [if_neg hlong] at hwalk ⊢
          exact ih hwalk

theorem KeepsDirectories.placeOf (h : t.KeepsDirectories t') {path : String}
    (hplace : t.placeOf path = .ok q) : t'.placeOf path = .ok q := by
  unfold FileTree.placeOf at hplace ⊢
  cases hsplit : splitPath path with
  | error e => rw [hsplit] at hplace; cases hplace
  | ok split =>
    rw [hsplit] at hplace
    exact h.walk hplace

/-! ### Creating directories -/

theorem createDirectory_grows (h : t.createDirectory place parts = .ok t') : t.GrowsTo t' := by
  unfold createDirectory at h
  cases hwalk : t.walk place parts with
  | error e => rw [hwalk] at h; cases h
  | ok there =>
    rw [hwalk] at h
    change (if (t.at? there).isSome then _ else _) = _ at h
    split at h
    · cases h
    · rename_i hfree
      cases h
      have hnone : t.at? there = none := by simpa using hfree
      have hground : isGround there = false := by
        rw [Bool.eq_false_iff]
        intro hground
        rw [t.at?_of_isGround hground] at hnone
        cases hnone
      intro q
      by_cases hq : q = there
      · rw [hq]
        exact .inr ⟨hnone, t.at?_put_self none hground⟩
      · exact .inl (t.at?_put_of_ne none hq)

theorem ensureDirectory_grows (h : t.ensureDirectory place parts = .ok t') : t.GrowsTo t' := by
  unfold ensureDirectory at h
  split at h
  · rename_i made hmade
    cases h
    exact createDirectory_grows hmade
  · split at h
    · cases h
      exact .refl t
    · cases h

/-- Whether the directory can be created or not. -/
theorem createFrom_grows (t : FileTree) (place : Place) (back : List String) :
    t.GrowsTo (t.createFrom place back).2 := by
  induction back generalizing t with
  | nil => exact .refl t
  | cons part back ih =>
    unfold createFrom
    simp only
    split
    · rename_i made hmade
      exact ensureDirectory_grows hmade
    · have haround := ih t
      split
      · rename_i around hcreated
        rw [hcreated] at haround
        split
        · rename_i made hmade
          exact haround.trans (ensureDirectory_grows hmade)
        · exact haround
      · exact haround
    · exact .refl t

/-- Nothing is lost either when creating directories fails half way. -/
theorem createDirectories_grows (t : FileTree) (path : String) :
    t.GrowsTo (t.createDirectories path).2 := by
  unfold createDirectories
  split
  · exact .refl t
  · split
    · exact createFrom_grows t _ _
    · exact .refl t

/-! ### Writing files -/

theorem writeFile_eq_ok {path content : String} (h : t.writeFile path content = .ok t') :
    ∃ place, t.placeOf path = .ok place ∧ t.at? place ≠ some none
      ∧ t' = t.put place (some content) := by
  unfold writeFile at h
  cases hplace : t.placeOf path with
  | error e => rw [hplace] at h; cases h
  | ok place =>
    rw [hplace] at h
    change (if t.at? place = some none then _ else _) = _ at h
    split at h
    · cases h
    · rename_i hfree
      cases h
      exact ⟨place, rfl, hfree, rfl⟩

theorem isGround_eq_false (h : t.at? place ≠ some none) : isGround place = false := by
  rw [Bool.eq_false_iff]
  intro hground
  exact h (t.at?_of_isGround hground)

theorem keepsDirectories_put (h : t.at? place ≠ some none) (content : Option String) :
    t.KeepsDirectories (t.put place content) := by
  intro q hq
  have hne : q ≠ place := by
    rintro rfl
    exact h hq
  rw [t.at?_put_of_ne content hne, hq]

theorem readFile_eq_ok {path content : String} (hplace : t.placeOf path = .ok place)
    (hthere : t.at? place = some (some content)) : t.readFile path = .ok content := by
  simp only [readFile, hplace, bind, Except.bind, hthere]

end Trees

/-! ### Files laid over a tree -/

/-- The directories around a file are created and the file is written. -/
def Placed (t : FileTree) (path content : String) (t' : FileTree) : Prop :=
  ∃ around, t.createDirectories (parentPath path) = (.ok (), around)
    ∧ around.writeFile path content = .ok t'

/-- Files with their paths are placed one after the other. -/
inductive PlacedAll : FileTree → List (String × String) → FileTree → Prop
  | nil (t : FileTree) : PlacedAll t [] t
  | cons {t t' t'' : FileTree} {path content : String} {files : List (String × String)}
      (first : Placed t path content t') (rest : PlacedAll t' files t'') :
      PlacedAll t ((path, content) :: files) t''

/-- The later tree is the earlier one with files on top of it. -/
structure LaidOver (t : FileTree) (files : List (String × String)) (t' : FileTree) : Prop where
  /-- Each file is found under its path, unless a later one was written to the same place. -/
  found : ∀ {front : List (String × String)} {path content : String}
    {back : List (String × String)}, files = front ++ (path, content) :: back →
    (∀ later ∈ back, t'.placeOf later.1 ≠ t'.placeOf path) → t'.readFile path = .ok content
  /-- What is new at other places are directories, and nothing has changed there. -/
  elsewhere : ∀ place, (∀ file ∈ files, t'.placeOf file.1 ≠ .ok place) →
    t'.at? place = t.at? place ∨ (t.at? place = none ∧ t'.at? place = some none)

section Laid

variable {t t' : FileTree} {path content : String} {files : List (String × String)}

/-- A placed file is found, and every other place has grown at most. -/
theorem Placed.effect (h : Placed t path content t') : t.KeepsDirectories t'
    ∧ ∃ place, t'.placeOf path = .ok place ∧ t'.at? place = some (some content)
      ∧ ∀ q, q ≠ place →
        t'.at? q = t.at? q ∨ (t.at? q = none ∧ t'.at? q = some none) := by
  obtain ⟨around, hcreated, hwritten⟩ := h
  have hgrows := createDirectories_grows t (parentPath path)
  rw [hcreated] at hgrows
  obtain ⟨place, hplace, hfree, rfl⟩ := writeFile_eq_ok hwritten
  have hkeeps := keepsDirectories_put hfree (some content)
  refine ⟨hgrows.keepsDirectories.trans hkeeps, place, hkeeps.placeOf hplace, ?_, ?_⟩
  · exact around.at?_put_self _ (isGround_eq_false hfree)
  · intro q hq
    rw [around.at?_put_of_ne _ hq]
    exact hgrows q

theorem PlacedAll.keepsDirectories (h : PlacedAll t files t') : t.KeepsDirectories t' := by
  induction h with
  | nil t => exact (GrowsTo.refl t).keepsDirectories
  | cons first _ ih => exact first.effect.1.trans ih

theorem PlacedAll.laidOver (h : PlacedAll t files t') : LaidOver t files t' := by
  induction h with
  | nil t => exact ⟨fun hfiles => by simp at hfiles, fun q _ => .inl rfl⟩
  | @cons t middle t' path content files first rest ih =>
    obtain ⟨_, place, hplace, hthere, hothers⟩ := first.effect
    have hafter : t'.placeOf path = .ok place := rest.keepsDirectories.placeOf hplace
    constructor
    · intro front path' content' back hfiles hlast
      cases front with
      | nil =>
        cases hfiles
        refine readFile_eq_ok hafter ?_
        rw [hafter] at hlast
        rcases ih.elsewhere place hlast with hsame | ⟨hnone, _⟩
        · exact hsame.trans hthere
        · rw [hthere] at hnone
          cases hnone
      | cons file front =>
        cases hfiles
        exact ih.found rfl hlast
    · intro q hq
      obtain ⟨hfirst, hrest⟩ := List.forall_mem_cons.mp hq
      have hne : q ≠ place := by
        rintro rfl
        exact hfirst hafter
      rcases ih.elsewhere q hrest with hsame | ⟨hnone, hnew⟩
      · rw [hsame]
        exact hothers q hne
      · rcases hothers q hne with hsame | ⟨_, hnew'⟩
        · exact .inr ⟨hsame.symm.trans hnone, hnew⟩
        · rw [hnew'] at hnone
          cases hnone

end Laid

end ClientGen.CommandLine.FileTree
