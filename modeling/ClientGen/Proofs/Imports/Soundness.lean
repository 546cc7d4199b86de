/-
  ClientGen/Proofs/Imports/Soundness.lean
  =======================================
  **A short name stands for one class.**

  A file asks its names for classes, members, types and imports of the source.  Whatever
  is asked comes down to names that are looked up one after the other (`serve_eq`), and
  each of these steps extends the table; so the answer to a look-up is the one that the
  finished file would give (`answer_lasts`).  There a simple name has one owner, and the
  owner is imported unless the file sees its package (`Owned`).
-/
import ClientGen.Proofs.Imports.Growth
import ClientGen.Proofs.Text.Pieces

namespace ClientGen

open ClientGen.Text

/-! ### Look-ups -/

mutual
/-- The classes that the written form of a type mentions, in writing order. -/
def TypeRef.classNames : TypeRef → List String
  | ⟨name, _, arguments, _, typeParameter, function⟩ =>
    match function with
    | some f => f.classNames
    | none => (if typeParameter then [] else [name]) ++ TypeArgument.allClassNames arguments

def TypeArgument.allClassNames : List TypeArgument → List String
  | [] => []
  | .star :: as => TypeArgument.allClassNames as
  | .type t :: as => t.classNames ++ TypeArgument.allClassNames as

def FunctionType.classNames : FunctionType → List String
  | ⟨receiver, parameters, returnType, _⟩ =>
    TypeRef.optionClassNames receiver ++ TypeRef.allClassNames parameters ++ returnType.classNames

def TypeRef.optionClassNames : Option TypeRef → List String
  | none => []
  | some t => t.classNames

def TypeRef.allClassNames : List TypeRef → List String
  | [] => []
  | t :: ts => t.classNames ++ TypeRef.allClassNames ts
end

/-- One step of asking the names of a file. -/
inductive Lookup where
  /-- A class is written. -/
  | name (name : String)
  /-- A top-level function or property is written. -/
  | member (name : String)
  /-- An import is kept as it is written. -/
  | verbatim (text : String)

/-- What is asked of the names of a file. -/
inductive NameRequest where
  | name (name : String)
  | member (name : String)
  | type (t : TypeRef)
  | sourceImport (text : String)

/-- The steps that a request comes down to. -/
def NameRequest.lookups : NameRequest → List Lookup
  | .name n => [.name n]
  | .member n => [.member n]
  | .type t => t.classNames.map .name
  | .sourceImport text =>
    if isVerbatim (trim text) then [.verbatim (trim text)]
    else if (trim text).isEmpty then []
    else [.name (trim text)]

namespace ImportTable

def serve (t : ImportTable) : NameRequest → ImportTable
  | .name name => ((writeName name).run t).2
  | .member name => ((writeMember name).run t).2
  | .type u => ((writeType u).run t).2
  | .sourceImport text => ((addSourceImport text).run t).2

def look (t : ImportTable) : Lookup → ImportTable
  | .name name => ((writeName name).run t).2
  | .member name => ((writeMember name).run t).2
  | .verbatim text => { t with verbatim := Ascending.putName text t.verbatim }

/-- The names of a file of a package after requests. -/
def afterRequests (package : String) (requests : List NameRequest) : ImportTable :=
  requests.foldl serve (.empty package)

/-- The names of a file of a package after steps. -/
def afterLookups (package : String) (lookups : List Lookup) : ImportTable :=
  lookups.foldl look (.empty package)

/-- The names after writing classes. -/
def write (t : ImportTable) (names : List String) : ImportTable :=
  names.foldl (fun t name => ((writeName name).run t).2) t

theorem write_append (t : ImportTable) (names names' : List String) :
    t.write (names ++ names') = (t.write names).write names' :=
  List.foldl_append

end ImportTable

open ImportTable (Extends)

/-! ### Types come down to classes -/

theorem run_bind_snd {α β : Type} (w : NameM α) (k : α → NameM β) (t : ImportTable) :
    ((w >>= k).run t).2 = ((k (w.run t).1).run (w.run t).2).2 := rfl

theorem run_map_snd {α β : Type} (w : NameM α) (g : α → β) (t : ImportTable) :
    ((w >>= fun a => pure (g a)).run t).2 = (w.run t).2 := rfl

mutual
theorem run_writeType_snd :
    ∀ (u : TypeRef) (t : ImportTable), ((writeType u).run t).2 = t.write u.classNames
  | ⟨name, nullable, arguments, resolved, typeParameter, some f⟩, t => by
    rw [writeType, TypeRef.classNames]
    exact run_writeFunctionType_snd nullable f t
  | ⟨name, nullable, arguments, resolved, true, none⟩, t => by
    rw [writeType, TypeRef.classNames]
    exact run_writeArguments_snd arguments t
  | ⟨name, nullable, arguments, resolved, false, none⟩, t => by
    rw [writeType, TypeRef.classNames]
    exact run_writeArguments_snd arguments _

theorem run_writeArguments_snd : ∀ (as : List TypeArgument) (t : ImportTable),
    ((writeArguments as).run t).2 = t.write (TypeArgument.allClassNames as)
  | [], t => by
    rw [writeArguments, TypeArgument.allClassNames]
    rfl
  | .star :: as, t => by
    rw [writeArguments, TypeArgument.allClassNames, run_map_snd]
    exact run_writeArguments_snd as t
  | .type u :: as, t => by
    rw [writeArguments, TypeArgument.allClassNames, run_bind_snd, run_map_snd,
      run_writeArguments_snd as, run_writeType_snd u, ImportTable.write_append]

theorem run_writeFunctionType_snd (nullable : Bool) : ∀ (f : FunctionType) (t : ImportTable),
    ((writeFunctionType nullable f).run t).2 = t.write f.classNames
  | ⟨receiver, parameters, returnType, suspending⟩, t => by
    rw [writeFunctionType, FunctionType.classNames, run_bind_snd, run_bind_snd, run_map_snd,
      run_writeType_snd returnType, run_writeTypes_snd parameters,
      run_writeOptionalType_snd receiver, ImportTable.write_append, ImportTable.write_append]

theorem run_writeOptionalType_snd : ∀ (u : Option TypeRef) (t : ImportTable),
    ((writeOptionalType u).run t).2 = t.write (TypeRef.optionClassNames u)
  | none, t => by
    rw [writeOptionalType, TypeRef.optionClassNames]
    rfl
  | some u, t => by
    rw [writeOptionalType, TypeRef.optionClassNames, run_map_snd]
    exact run_writeType_snd u t

theorem run_writeTypes_snd : ∀ (us : List TypeRef) (t : ImportTable),
    ((writeTypes us).run t).2 = t.write (TypeRef.allClassNames us)
  | [], t => by
    rw [writeTypes, TypeRef.allClassNames]
    rfl
  | u :: us, t => by
    rw [writeTypes, TypeRef.allClassNames, run_bind_snd, run_map_snd, run_writeTypes_snd us,
      run_writeType_snd u, ImportTable.write_append]
end

namespace ImportTable

theorem foldl_look_name (t : ImportTable) (names : List String) :
    (names.map Lookup.name).foldl look t = t.write names :=
  List.foldl_map

/-- A request is served by its steps. -/
theorem serve_eq (t : ImportTable) (r : NameRequest) : t.serve r = r.lookups.foldl look t := by
  cases r with
  | name name => rfl
  | member name => rfl
  | type u =>
    rw [NameRequest.lookups, foldl_look_name]
    exact run_writeType_snd u t
  | sourceImport text =>
    simp only [serve, NameRequest.lookups, addSourceImport]
    generalize trim text = line
    by_cases hverbatim : isVerbatim line = true
    · rw [if_pos hverbatim, if_pos hverbatim]
      rfl
    · rw [if_neg hverbatim, if_neg hverbatim]
      cases line.isEmpty with
      | true => rfl
      | false => rfl

theorem afterRequests_eq (package : String) (requests : List NameRequest) :
    afterRequests package requests
      = afterLookups package (requests.flatMap NameRequest.lookups) := by
  unfold afterRequests afterLookups
  rw [List.foldl_flatMap]
  congr 1
  funext t r
  exact serve_eq t r

/-! ### Steps extend the table -/

theorem look_extends (t : ImportTable) (l : Lookup) : t.Extends (t.look l) := by
  cases l with
  | name name => exact Grows.name name t
  | member name => exact Grows.member name t
  | verbatim text =>
    exact ⟨rfl, fun _ _ h => h, fun _ h => h, fun _ h => Ascending.mem_putName.mpr (.inr h)⟩

theorem foldl_look_extends (lookups : List Lookup) (t : ImportTable) :
    t.Extends (lookups.foldl look t) := by
  induction lookups generalizing t with
  | nil => exact .refl t
  | cons l lookups ih => exact (look_extends t l).trans (ih (t.look l))

theorem afterLookups_extends (package : String) (before after : List Lookup) :
    (afterLookups package before).Extends (afterLookups package (before ++ after)) := by
  unfold afterLookups
  rw [List.foldl_append]
  exact foldl_look_extends after _

theorem afterRequests_extends (package : String) (before after : List NameRequest) :
    (afterRequests package before).Extends (afterRequests package (before ++ after)) := by
  rw [afterRequests_eq, afterRequests_eq, List.flatMap_append]
  exact afterLookups_extends package _ _

theorem mem_lines {t : ImportTable} {line : String} :
    line ∈ t.lines ↔ line ∈ t.imports ∨ line ∈ t.verbatim := by
  rw [lines, Ascending.mem_ofNames, List.mem_append]

theorem Extends.lines {t t' : ImportTable} (h : t.Extends t') {line : String}
    (hline : line ∈ t.lines) : line ∈ t'.lines := by
  rcases mem_lines.mp hline with himport | hverbatim
  · exact mem_lines.mpr (.inl (h.imports line himport))
  · exact mem_lines.mpr (.inr (h.verbatim line hverbatim))

/-! ### Owners -/

/-- Every owner of a simple name ends in it and is seen or imported. -/
def Owned (t : ImportTable) : Prop :=
  ∀ simple name, t.owners.lookup simple = some name →
    ∃ package, splitLast name = some (package, simple)
      ∧ (t.sees package = true ∨ name ∈ t.imports)

theorem owned_empty (package : String) : (empty package).Owned :=
  fun _ _ h => nomatch h

/-- More imports keep the owners. -/
theorem Owned.mono {t t' : ImportTable} (h : t.Owned) (hpackage : t'.package = t.package)
    (howners : t'.owners = t.owners) (himports : ∀ name ∈ t.imports, name ∈ t'.imports) :
    t'.Owned := by
  intro simple name howner
  rw [howners] at howner
  obtain ⟨package, hsplit, hseen⟩ := h simple name howner
  refine ⟨package, hsplit, ?_⟩
  rw [sees, hpackage]
  exact hseen.imp_right (himports name)

@[simp] theorem importName_owners (t : ImportTable) (package name : String) :
    (t.importName package name).owners = t.owners := by
  unfold importName
  split
  · rfl
  · rfl

@[simp] theorem importName_sees (t : ImportTable) (package name other : String) :
    (t.importName package name).sees other = t.sees other := by
  unfold importName
  split
  · rfl
  · rfl

@[simp] theorem importName_verbatim (t : ImportTable) (package name : String) :
    (t.importName package name).verbatim = t.verbatim := by
  unfold importName
  split
  · rfl
  · rfl

theorem mem_imports_importName {t : ImportTable} {package name line : String}
    (h : line ∈ (t.importName package name).imports) : line = name ∨ line ∈ t.imports := by
  unfold importName at h
  split at h
  · exact .inr h
  · exact Ascending.mem_putName.mp h

theorem mem_importName (t : ImportTable) (package name : String) :
    t.sees package = true ∨ name ∈ (t.importName package name).imports := by
  unfold importName
  by_cases hseen : t.sees package = true
  · exact .inl hseen
  · rw [if_neg hseen]
    exact .inr (Ascending.mem_putName.mpr (.inl rfl))

/-- A new owner is imported when it takes its simple name. -/
theorem Owned.name {t : ImportTable} (h : t.Owned) (name : String) :
    ((writeName name).run t).2.Owned := by
  rw [run_writeName]
  cases hsplit : splitLast name with
  | none => exact h
  | some split =>
    obtain ⟨package, simple⟩ := split
    cases hlookup : t.owners.lookup simple with
    | some owner =>
      simp only [hlookup]
      exact h
    | none =>
      simp only [hlookup]
      intro other owner howner
      rw [importName_owners, List.lookup_cons] at howner
      by_cases hsame : other = simple
      · rw [hsame, beq_self_eq_true] at howner
        cases howner
        refine ⟨package, by rw [hsplit, hsame], ?_⟩
        rw [importName_sees]
        exact mem_importName _ package name
      · rw [beq_eq_false_iff_ne.mpr hsame] at howner
        obtain ⟨package', hsplit', hseen⟩ := h other owner howner
        refine ⟨package', hsplit', ?_⟩
        rw [importName_sees]
        exact hseen.imp_right fun himport =>
          (importName_extends _ package name).imports owner himport

theorem run_writeMember_owners (name : String) (t : ImportTable) :
    ((writeMember name).run t).2.owners = t.owners := by
  unfold writeMember
  cases splitLast name with
  | none => rfl
  | some split => exact importName_owners t split.1 name

theorem Owned.look {t : ImportTable} (h : t.Owned) (l : Lookup) : (t.look l).Owned := by
  cases l with
  | name name => exact h.name name
  | member name =>
    have hextends := Grows.member name t
    exact h.mono hextends.package (run_writeMember_owners name t) hextends.imports
  | verbatim text => exact h.mono rfl rfl fun _ himport => himport

theorem owned_afterLookups (package : String) (lookups : List Lookup) :
    (afterLookups package lookups).Owned := by
  have hfold : ∀ t : ImportTable, t.Owned → (lookups.foldl look t).Owned := by
    induction lookups with
    | nil => exact fun t h => h
    | cons l lookups ih => exact fun t h => ih (t.look l) (h.look l)
  exact hfold _ (owned_empty package)

/-! ### Answers -/

/-- Somewhere among the requests to a file of the package, the class is looked up and
    written by this text. -/
def Answered (package : String) (requests : List NameRequest) (name text : String) : Prop :=
  ∃ before after, requests.flatMap NameRequest.lookups = before ++ .name name :: after
    ∧ text = ((writeName name).run (afterLookups package before)).1

/-- Looking up the class added the line to the imports. -/
def ImportedByName (package : String) (requests : List NameRequest) (line : String) : Prop :=
  ∃ before name after, requests.flatMap NameRequest.lookups = before ++ .name name :: after
    ∧ line ∉ (afterLookups package before).lines
    ∧ line ∈ (afterLookups package (before ++ [.name name])).lines

section Answers

variable {package : String} {requests : List NameRequest} {name name' text text' : String}

/-- An answer is the one that the names at the end give. -/
theorem Answered.final (h : Answered package requests name text) :
    (writeName name).run (afterRequests package requests)
      = (text, afterRequests package requests) := by
  obtain ⟨before, after, hlookups, rfl⟩ := h
  rw [afterRequests_eq, hlookups]
  have hextends := afterLookups_extends package (before ++ [.name name]) after
  rw [List.append_assoc, List.singleton_append] at hextends
  refine (Stable.name name).holds (afterLookups package before) _ ?_
  rwa [afterLookups, List.foldl_append] at hextends

theorem owned_afterRequests (package : String) (requests : List NameRequest) :
    (afterRequests package requests).Owned := by
  rw [afterRequests_eq]
  exact owned_afterLookups package _

theorem package_afterRequests (package : String) (requests : List NameRequest) :
    (afterRequests package requests).package = package := by
  rw [afterRequests_eq]
  exact (foldl_look_extends _ (empty package)).package

/-- A dotted name that is written without a dot owns its simple name. -/
theorem Answered.owner (h : Answered package requests name text) (hname : '.' ∈ name.toList)
    (htext : '.' ∉ text.toList) :
    (afterRequests package requests).owners.lookup text = some name := by
  obtain ⟨outer, simple, hsplit⟩ := exists_splitLast hname
  have hfinal := h.final
  rw [run_writeName, hsplit] at hfinal
  cases hlookup : (afterRequests package requests).owners.lookup simple with
  | some owner =>
    simp only [hlookup] at hfinal
    obtain ⟨hanswer, -⟩ := Prod.mk.inj hfinal
    by_cases howner : owner = name
    · rw [if_pos howner] at hanswer
      rw [← hanswer, hlookup, howner]
    · rw [if_neg howner] at hanswer
      rw [hanswer] at hname
      exact (htext hname).elim
  | none =>
    simp only [hlookup] at hfinal
    obtain ⟨rfl, htable⟩ := Prod.mk.inj hfinal
    rw [← htable, importName_owners, List.lookup_cons, beq_self_eq_true]

/-- A line that a look-up added is the class itself, which owns its simple name. -/
theorem ImportedByName.owner {line outer simple : String}
    (h : ImportedByName package requests line) (hsplit : splitLast line = some (outer, simple)) :
    (afterRequests package requests).owners.lookup simple = some line := by
  obtain ⟨before, name, after, hlookups, hnew, hline⟩ := h
  have hextends := afterLookups_extends package (before ++ [.name name]) after
  rw [List.append_assoc, List.singleton_append, ← hlookups, ← afterRequests_eq] at hextends
  apply hextends.owners
  have hstep : afterLookups package (before ++ [.name name])
      = ((writeName name).run (afterLookups package before)).2 := by
    rw [afterLookups, List.foldl_append]
    rfl
  rw [hstep, run_writeName] at hline ⊢
  cases hname : splitLast name with
  | none =>
    simp only [hname] at hline
    exact (hnew hline).elim
  | some split =>
    obtain ⟨outer', simple'⟩ := split
    cases hlookup : (afterLookups package before).owners.lookup simple' with
    | some owner =>
      simp only [hname, hlookup] at hline
      exact (hnew hline).elim
    | none =>
      simp only [hname, hlookup] at hline ⊢
      -- The table without the new import is the one before, so the line is the new import.
      have hadded : line = name := by
        rcases mem_lines.mp hline with himport | hverbatim
        · rcases mem_imports_importName himport with rfl | hold
          · rfl
          · exact (hnew (mem_lines.mpr (.inl hold))).elim
        · rw [importName_verbatim] at hverbatim
          exact (hnew (mem_lines.mpr (.inr hverbatim))).elim
      rw [hadded, hname] at hsplit
      cases hsplit
      rw [importName_owners, List.lookup_cons, beq_self_eq_true, hadded]

end Answers

/-- A name that is asked for is answered with the names that the file has then. -/
theorem answered_name (package name : String) (front back : List NameRequest) :
    Answered package (front ++ .name name :: back) name
      ((writeName name).run (afterRequests package front)).1 := by
  refine ⟨front.flatMap NameRequest.lookups, back.flatMap NameRequest.lookups, ?_, ?_⟩
  · rw [List.flatMap_append, List.flatMap_cons]
    rfl
  · rw [afterRequests_eq]

/-- Whatever a file asks of its names: a short text stands for one class, a class keeps its
    text, a short text is seen or imported, no two imported classes share a simple name, and
    the imports are in strict order and only grow. -/
theorem names_sound (package : String) (requests : List NameRequest) :
    (∀ name name' text, Answered package requests name text →
        Answered package requests name' text → '.' ∈ name.toList → '.' ∈ name'.toList →
          '.' ∉ text.toList → name = name')
      ∧ (∀ name text text', Answered package requests name text →
          Answered package requests name text' → text = text')
      ∧ (∀ name text, Answered package requests name text → '.' ∈ name.toList →
          '.' ∉ text.toList → ∃ outer, splitLast name = some (outer, text)
            ∧ (outer = package ∨ outer ∈ defaultPackages
              ∨ ∀ more, name ∈ (afterRequests package (requests ++ more)).lines))
      ∧ (∀ line line' outer outer' simple, ImportedByName package requests line →
          ImportedByName package requests line' → splitLast line = some (outer, simple) →
            splitLast line' = some (outer', simple) → line = line')
      ∧ Ascending.Strict (afterRequests package requests).lines
      ∧ ∀ line ∈ (afterRequests package requests).lines, ∀ more,
          line ∈ (afterRequests package (requests ++ more)).lines := by
  refine ⟨?_, ?_, ?_, ?_, Ascending.strict_ofNames _, ?_⟩
  · intro name name' text h h' hname hname' htext
    have howner := h.owner hname htext
    rw [h'.owner hname' htext] at howner
    exact (Option.some.inj howner).symm
  · intro name text text' h h'
    have hsame := h.final.symm.trans h'.final
    exact (Prod.mk.inj hsame).1
  · intro name text h hname htext
    obtain ⟨outer, hsplit, hseen⟩ :=
      owned_afterRequests package requests text name (h.owner hname htext)
    refine ⟨outer, hsplit, ?_⟩
    rcases hseen with hseen | himport
    · rw [sees, package_afterRequests, Bool.or_eq_true, beq_iff_eq, List.contains_iff_mem] at hseen
      exact hseen.imp_right .inl
    · exact .inr (.inr fun more =>
        (afterRequests_extends package requests more).lines (mem_lines.mpr (.inl himport)))
  · intro line line' outer outer' simple h h' hsplit hsplit'
    have howner := h.owner hsplit
    rw [h'.owner hsplit'] at howner
    exact (Option.some.inj howner).symm
  · intro line hline more
    exact (afterRequests_extends package requests more).lines hline

def clash : List NameRequest :=
  [.name "io.ktor.http.Parameters",
    .type ⟨"kotlin.collections.List", false, [.type (.named "com.other.Parameters")], true, false,
      none⟩,
    .member "com.other.util.Parameters", .sourceImport " com.other.User "]

/-- The first class is imported for good and the second one never gets the short name. -/
theorem names_sound_of_clash :
    Answered "demo" clash "io.ktor.http.Parameters" "Parameters"
      ∧ Answered "demo" clash "com.other.Parameters" "com.other.Parameters"
      ∧ ¬ Answered "demo" clash "com.other.Parameters" "Parameters"
      ∧ (∀ more, "io.ktor.http.Parameters" ∈ (afterRequests "demo" (clash ++ more)).lines)
      ∧ Ascending.Strict (afterRequests "demo" clash).lines := by
  obtain ⟨hone, hstable, hshort, -, hstrict, -⟩ := names_sound "demo" clash
  have hfirst : Answered "demo" clash "io.ktor.http.Parameters" "Parameters" := by
    have hasked := answered_name "demo" "io.ktor.http.Parameters" [] clash.tail
    have htext : ((writeName "io.ktor.http.Parameters").run (afterRequests "demo" [])).1
        = "Parameters" := by
      decide +kernel
    rwa [htext] at hasked
  have hsecond : Answered "demo" clash "com.other.Parameters" "com.other.Parameters" :=
    ⟨[.name "io.ktor.http.Parameters", .name "kotlin.collections.List"], _, rfl,
      by decide +kernel⟩
  refine ⟨hfirst, hsecond, ?_, ?_, hstrict⟩
  · intro hshortened
    have hname := hone _ _ _ hfirst hshortened (by decide) (by decide) (by decide)
    exact absurd hname (by decide)
  · obtain ⟨outer, hsplit, hseen⟩ := hshort _ _ hfirst (by decide) (by decide)
    have houter : outer = "io.ktor.http" := by
      have hsome : splitLast "io.ktor.http.Parameters" = some ("io.ktor.http", "Parameters") := by
        decide +kernel
      rw [hsome] at hsplit
      cases hsplit
      rfl
    rcases hseen with hpackage | hdefault | himported
    · rw [houter] at hpackage
      exact absurd hpackage (by decide)
    · rw [houter] at hdefault
      exact absurd hdefault (by decide)
    · exact himported

end ImportTable

end ClientGen
