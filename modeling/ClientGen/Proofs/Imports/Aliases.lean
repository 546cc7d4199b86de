/-
  ClientGen/Proofs/Imports/Aliases.lean
  =====================================
  **Imports under another name.**

  An import of the source file under another name is kept as it is written, and the names of
  the file never learn that the other name is taken.  A simple name belongs to the first class
  that the file is asked for under it, whatever the source imports (`lookup_afterRequests`).
  So a class keeps off the other name exactly if a different class took that name first
  (`alias_kept_iff`); a class that is the first to be asked for shares the name with the import
  (`alias_may_be_shared`).
-/
import ClientGen.Proofs.Imports.Soundness

namespace ClientGen

open ClientGen.Text

/-! ### Kept imports -/

theorem isVerbatim_as (source short : String) :
    isVerbatim (source ++ " as " ++ short) = true := by
  have hcontains : contains (source ++ " as " ++ short) " as " = true := by
    rw [contains, String.toList_append, String.toList_append, List.append_assoc]
    exact occursIn_append _ _ _
  rw [isVerbatim, hcontains, Bool.or_true]

/-! ### Owners of simple names -/

/-- The class that a step looks up under a simple name. -/
def Lookup.named? (simple : String) : Lookup → Option String
  | .name n => if (splitLast n).map Prod.snd = some simple then some n else none
  | .member _ | .verbatim _ => none

/-- The first class that requests ask for under a simple name. -/
def firstNamed (simple : String) (requests : List NameRequest) : Option String :=
  (requests.flatMap NameRequest.lookups).findSome? (Lookup.named? simple)

namespace ImportTable

variable {package name outer simple : String}

theorem named?_name (hname : splitLast name = some (outer, simple)) (other : String) :
    Lookup.named? other (.name name) = if simple = other then some name else none := by
  rw [Lookup.named?, hname]
  simp only [Option.map_some, Option.some.injEq]

/-- A step gives a simple name to the class that it looks up, unless it is taken. -/
theorem lookup_look (t : ImportTable) (l : Lookup) (other : String) :
    (t.look l).owners.lookup other = (t.owners.lookup other).or (l.named? other) := by
  cases l with
  | verbatim text => rw [Lookup.named?, Option.or_none, look]
  | member name => rw [Lookup.named?, Option.or_none, look, run_writeMember_owners]
  | name name =>
    rw [look, run_writeName]
    cases hname : splitLast name with
    | none => rw [Lookup.named?, hname, if_neg (by simp), Option.or_none]
    | some split =>
      obtain ⟨outer, simple⟩ := split
      rw [named?_name hname]
      cases howner : t.owners.lookup simple with
      | some owner =>
        simp only [howner]
        by_cases hsame : simple = other
        · rw [← hsame, howner, Option.some_or]
        · rw [if_neg hsame, Option.or_none]
      | none =>
        simp only [howner, importName_owners, List.lookup_cons]
        by_cases hsame : simple = other
        · rw [← hsame, howner, if_pos rfl, beq_self_eq_true, Option.none_or]
        · rw [if_neg hsame, Option.or_none, beq_eq_false_iff_ne.mpr (Ne.symm hsame)]

theorem lookup_foldl_look (lookups : List Lookup) (t : ImportTable) (simple : String) :
    (lookups.foldl look t).owners.lookup simple
      = (t.owners.lookup simple).or (lookups.findSome? (Lookup.named? simple)) := by
  induction lookups generalizing t with
  | nil => exact Option.or_none.symm
  | cons l lookups ih =>
    rw [List.foldl_cons, ih, lookup_look, Option.or_assoc, List.findSome?_cons]
    cases l.named? simple with
    | none => rfl
    | some name => rfl

theorem lookup_afterLookups (package : String) (lookups : List Lookup) (simple : String) :
    (afterLookups package lookups).owners.lookup simple
      = lookups.findSome? (Lookup.named? simple) := by
  rw [afterLookups, lookup_foldl_look]
  rfl

/-- A simple name belongs to the first class that is asked for under it. -/
theorem lookup_afterRequests (package : String) (requests : List NameRequest) (simple : String) :
    (afterRequests package requests).owners.lookup simple = firstNamed simple requests := by
  rw [afterRequests_eq, lookup_afterLookups, firstNamed]

theorem named?_eq_some {l : Lookup} (h : l.named? simple = some name) :
    l = .name name ∧ ∃ outer, splitLast name = some (outer, simple) := by
  cases l with
  | name other =>
    rw [Lookup.named?] at h
    split at h
    · rename_i hlast
      cases h
      obtain ⟨⟨outer, last⟩, hsplit, hsame⟩ := Option.map_eq_some_iff.mp hlast
      exact ⟨rfl, outer, by rw [hsplit, ← hsame]⟩
    · cases h
  | member other => cases h
  | verbatim text => cases h

/-- A simple name that belongs to no class is given away. -/
theorem answer_of_free {t : ImportTable} (hname : splitLast name = some (outer, simple))
    (hfree : t.owners.lookup simple = none) : ((writeName name).run t).1 = simple := by
  rw [run_writeName, hname]
  simp only [hfree]

theorem run_of_owned {t : ImportTable} {owner : String}
    (hname : splitLast name = some (outer, simple))
    (howner : t.owners.lookup simple = some owner) :
    (writeName name).run t = (if owner = name then simple else name, t) := by
  rw [run_writeName, hname]
  simp only [howner]

/-- The first class with a simple name is the only one that is written by it. -/
theorem answered_simple_iff {requests : List NameRequest} (hsimple : '.' ∉ simple.toList)
    (hname : '.' ∈ name.toList) :
    Answered package requests name simple ↔ firstNamed simple requests = some name := by
  constructor
  · intro h
    rw [← lookup_afterRequests package]
    exact h.owner hname hsimple
  · intro h
    obtain ⟨before, l, after, hlookups, hl, hbefore⟩ := List.findSome?_eq_some_iff.mp h
    obtain ⟨rfl, outer, hsplit⟩ := named?_eq_some hl
    have hfree : (afterLookups package before).owners.lookup simple = none := by
      rw [lookup_afterLookups, List.findSome?_eq_none_iff]
      exact hbefore
    exact ⟨before, after, hlookups, (answer_of_free hsplit hfree).symm⟩

/-! ### Names that are kept free -/

/-- Writing the class does not use the simple name for it: the answer is another one, and no
    line is added that brings the simple name into the file. -/
structure Spares (t : ImportTable) (name simple : String) : Prop where
  answer : ((writeName name).run t).1 ≠ simple
  lines : ∀ line ∈ ((writeName name).run t).2.lines, line ∉ t.lines →
    ∀ outer, splitLast line ≠ some (outer, simple)

/-- A class leaves its simple name alone exactly if the name belongs to a different class. -/
theorem spares_iff {t : ImportTable} (hname : splitLast name = some (outer, simple)) :
    t.Spares name simple ↔ ∃ owner, t.owners.lookup simple = some owner ∧ owner ≠ name := by
  cases howner : t.owners.lookup simple with
  | none =>
    constructor
    · intro h
      exact (h.answer (answer_of_free hname howner)).elim
    · rintro ⟨owner, hnone, -⟩
      cases hnone
  | some owner =>
    have hrun := run_of_owned hname howner
    by_cases hsame : owner = name
    · rw [if_pos hsame] at hrun
      constructor
      · intro h
        exact (h.answer (by rw [hrun])).elim
      · rintro ⟨other, hother, hne⟩
        cases hother
        exact (hne hsame).elim
    · rw [if_neg hsame] at hrun
      -- The full name of the class has a dot, which its simple name has not.
      have hfull : name ≠ simple := by
        obtain ⟨hjoin, hdot⟩ := splitLast_eq_some hname
        rintro rfl
        apply hdot
        rw [hjoin]
        simp
      refine ⟨fun _ => ⟨owner, rfl, hsame⟩, fun _ => ⟨?_, ?_⟩⟩
      · rw [hrun]
        exact hfull
      · rw [hrun]
        exact fun line hline hnew => (hnew hline).elim

/-- An import under another name is kept for good.  A class of that name asked for behind it
    keeps off the name exactly if a different class was the first to be asked for under it, and
    that first class is written by the name, whatever the import says. -/
theorem alias_kept_iff (package : String) (before after : List NameRequest)
    {text source short name outer : String} (hsource : trim text = source ++ " as " ++ short)
    (hname : splitLast name = some (outer, short)) :
    trim text ∈ (afterRequests package (before ++ .sourceImport text :: after)).lines
      ∧ ((afterRequests package (before ++ .sourceImport text :: after)).Spares name short
        ↔ ∃ owner, firstNamed short (before ++ .sourceImport text :: after) = some owner
          ∧ owner ≠ name)
      ∧ ∀ other, '.' ∈ other.toList →
          (Answered package (before ++ .sourceImport text :: after) other short
            ↔ firstNamed short (before ++ .sourceImport text :: after) = some other) := by
  have hkept : trim text ∈ (afterRequests package (before ++ [.sourceImport text])).lines := by
    have hlookups : NameRequest.lookups (.sourceImport text) = [.verbatim (trim text)] := by
      rw [NameRequest.lookups, hsource, if_pos (isVerbatim_as source short)]
    rw [afterRequests, List.foldl_append, List.foldl_cons, List.foldl_nil, serve_eq, hlookups]
    exact mem_lines.mpr (.inr (Ascending.mem_putName.mpr (.inl rfl)))
  refine ⟨?_, ?_, fun other hother => ?_⟩
  · have hextends := afterRequests_extends package (before ++ [.sourceImport text]) after
    rw [List.append_assoc, List.singleton_append] at hextends
    exact hextends.lines hkept
  · rw [spares_iff hname, lookup_afterRequests]
  · exact answered_simple_iff (splitLast_eq_some hname).2 hother

/-- Behind `e.f.C`, which is written as `C`, the import is kept and `c.d.C` is written in
    full. -/
theorem alias_kept_iff_of_taken :
    let requests : List NameRequest := [.name "e.f.C", .sourceImport "a.b.X as C"]
    trim "a.b.X as C" = "a.b.X" ++ " as " ++ "C" ∧ splitLast "c.d.C" = some ("c.d", "C")
      ∧ "a.b.X as C" ∈ (afterRequests "demo" requests).lines
      ∧ (afterRequests "demo" requests).Spares "c.d.C" "C"
      ∧ Answered "demo" requests "e.f.C" "C" := by
  intro requests
  have htrim : trim "a.b.X as C" = "a.b.X as C" := by decide +kernel
  have hsource : trim "a.b.X as C" = "a.b.X" ++ " as " ++ "C" := by rw [htrim]; rfl
  have hname : splitLast "c.d.C" = some ("c.d", "C") := by decide +kernel
  have hfirst : firstNamed "C" requests = some "e.f.C" := by decide +kernel
  obtain ⟨hkept, hspares, hanswered⟩ :=
    alias_kept_iff "demo" [.name "e.f.C"] [] hsource hname
  rw [htrim] at hkept
  exact ⟨hsource, hname, hkept, hspares.mpr ⟨"e.f.C", hfirst, by decide⟩,
    (hanswered "e.f.C" (by decide)).mpr hfirst⟩

/-- The first class that is asked for under the other name of an import gets that name too, which
    then stands for two classes. -/
theorem alias_may_be_shared :
    ¬ ∀ (package : String) (before after : List NameRequest) (text source short name outer : String),
      trim text = source ++ " as " ++ short → splitLast name = some (outer, short) →
        name ≠ source →
          (afterRequests package (before ++ .sourceImport text :: after)).Spares name short := by
  intro h
  have hshared := h "demo" [] [] "a.b.X as C" "a.b.X" "C" "c.d.C" "c.d" (by decide +kernel)
    (by decide +kernel) (by decide)
  exact hshared.answer (by decide +kernel)

end ImportTable

end ClientGen
