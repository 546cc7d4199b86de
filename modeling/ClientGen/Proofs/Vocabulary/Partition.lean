/-
  ClientGen/Proofs/Vocabulary/Partition.lean
  ==========================================
  **Every use of an annotation is read in one place.**

  A use is recognised by its name: a name with dots by its length, both ends and the dot
  between them, which together are the whole name (`fits_iff`), a name without dots by the
  simple name alone.  No two words are written alike, so a use is at most one word and the
  order of the tests does not matter (`word?_eq_some_iff`).  A word lies in the packages of
  the vocabulary or is listed by its simple name, so what is recognised is never passed
  through (`isVocabulary_of_word?`), and reading one use after the other puts each of them in
  one place (`readFunctionAnnotations_eq_foldl`).
-/
import ClientGen.Proofs.Related
import ClientGen.Proofs.Text.Pieces
import ClientGen.Vocabulary.Reader
import Mathlib.Data.List.Nodup

namespace ClientGen

open ClientGen.Text

/-! ### Names by their parts -/

namespace Text

/-- The bytes of a text. -/
def bytes (s : String) : List UInt8 :=
  s.toByteArray.data.toList

theorem bytes_append (s t : String) : bytes (s ++ t) = bytes s ++ bytes t := by
  rw [bytes, String.toByteArray_append, ByteArray.data_append, Array.toList_append]
  rfl

theorem length_bytes (s : String) : (bytes s).length = s.utf8ByteSize := rfl

theorem bytes_inj {s t : String} (h : bytes s = bytes t) : s = t :=
  String.toByteArray_inj.mp (ByteArray.ext (Array.toList_inj.mp h))

/-- The name has the length of the two with a dot between them, starts and ends with them, and
    has the dot behind the first. -/
def fits (name package simple : String) : Bool :=
  name.utf8ByteSize == package.utf8ByteSize + 1 + simple.utf8ByteSize
    && startsWith name package && endsWith name simple
    && (bytes name)[package.utf8ByteSize]? == some 46

/-- Length, ends and the dot between them leave no other name. -/
theorem fits_iff {name package simple : String} :
    fits name package simple = true ↔ name = package ++ "." ++ simple := by
  have hdot : bytes "." = [46] := by decide
  constructor
  · intro h
    simp only [fits, Bool.and_eq_true, beq_iff_eq, startsWith_iff, endsWith_iff] at h
    obtain ⟨⟨⟨hsize, rest, hrest⟩, front, hfront⟩, hbyte⟩ := h
    have hname : bytes package ++ bytes rest = bytes front ++ bytes simple := by
      rw [← bytes_append, ← hrest, hfront, bytes_append]
    have hlengths : (bytes package).length + (bytes rest).length
        = (bytes package).length + 1 + (bytes simple).length := by
      rw [← List.length_append, ← bytes_append, ← hrest]
      exact hsize
    -- one byte is left between the two ends
    obtain ⟨middle, hmiddle⟩ : ∃ middle, bytes rest = middle ++ bytes simple := by
      have hle : (bytes simple).length ≤ (bytes rest).length := by omega
      exact (List.suffix_of_suffix_length_le ⟨bytes front, hname.symm⟩
        ⟨bytes package, rfl⟩ hle).imp fun _ h => h.symm
    have hone : middle.length = 1 := by
      rw [hmiddle, List.length_append] at hlengths
      omega
    obtain ⟨b, rfl⟩ := List.length_eq_one_iff.mp hone
    have hb : b = 46 := by
      rw [hrest, bytes_append, hmiddle, ← length_bytes,
        List.getElem?_append_right (Nat.le_refl _), Nat.sub_self] at hbyte
      exact Option.some.inj hbyte
    apply bytes_inj
    rw [hrest, bytes_append, hmiddle, hb, bytes_append, bytes_append, hdot, List.append_assoc]
  · rintro rfl
    simp only [fits, Bool.and_eq_true, beq_iff_eq, startsWith_iff, endsWith_iff]
    refine ⟨⟨⟨?_, "." ++ simple, String.append_assoc⟩, package ++ ".", rfl⟩, ?_⟩
    · rw [String.utf8ByteSize_append, String.utf8ByteSize_append]
      rfl
    · rw [String.append_assoc, bytes_append, bytes_append, hdot, ← length_bytes,
        List.getElem?_append_right (Nat.le_refl _), Nat.sub_self]
      rfl

end Text

/-! ### Recognition -/

/-- Recognition compares a dotted name part by part. -/
theorem AnnotationUse.is_eq_fits (a : AnnotationUse) (package simple : String) :
    a.is package simple
      = if a.qualifiedName.toList.contains '.' then fits a.qualifiedName package simple
        else a.qualifiedName == simple := by
  unfold AnnotationUse.is
  split
  · rw [Bool.eq_iff_iff, beq_iff_eq, fits_iff]
  · rfl

/-- The name that a use of a word has, with its package in front when it has dots. -/
def Word.writtenIn (w : Word) (name : String) : String :=
  if name.toList.contains '.' then w.package ++ "." ++ w.simple else w.simple

theorem AnnotationUse.is_iff {a : AnnotationUse} {w : Word} :
    a.is w.package w.simple = true ↔ a.qualifiedName = w.writtenIn a.qualifiedName := by
  unfold AnnotationUse.is Word.writtenIn
  split <;> exact beq_iff_eq

theorem Word.package_eq (w : Word) : w.package = corePackage ∨ w.package = httpPackage := by
  unfold package
  split
  case h_9 => exact .inr rfl
  all_goals exact .inl rfl

theorem Word.nodup_simple : (Word.all.map Word.simple).Nodup := by
  decide +kernel

theorem Word.eq_of_simple {w w' : Word} (h : w.simple = w'.simple) : w = w' :=
  List.inj_on_of_nodup_map nodup_simple w.mem_all w'.mem_all h

/-- Both packages are equally long, so a qualified name ends in one simple name. -/
theorem Word.eq_of_qualified {w w' : Word}
    (h : w.package ++ "." ++ w.simple = w'.package ++ "." ++ w'.simple) : w = w' := by
  have hlength : ∀ w : Word, (w.package ++ ".").toList.length = 31 := by
    intro w
    rcases w.package_eq with hcore | hhttp
    · rw [hcore]
      decide +kernel
    · rw [hhttp]
      decide +kernel
  have hlist := congrArg String.toList h
  rw [String.toList_append, String.toList_append (s := w'.package ++ ".")] at hlist
  have hsimple := (List.append_inj hlist ((hlength w).trans (hlength w').symm)).2
  exact eq_of_simple (String.toList_inj.mp hsimple)

/-- No two words are written alike. -/
theorem AnnotationUse.is_unique {a : AnnotationUse} {w w' : Word}
    (h : a.is w.package w.simple = true) (h' : a.is w'.package w'.simple = true) : w = w' := by
  have hname := (is_iff.mp h).symm.trans (is_iff.mp h')
  unfold Word.writtenIn at hname
  split at hname
  · exact Word.eq_of_qualified hname
  · exact Word.eq_of_simple hname

/-- The first word that fits is the only one. -/
theorem AnnotationUse.word?_eq_some_iff {a : AnnotationUse} {w : Word} :
    a.word? = some w ↔ a.is w.package w.simple = true := by
  constructor
  · intro h
    exact List.find?_some (p := fun w : Word => a.is w.package w.simple) h
  · intro h
    cases hword : a.word? with
    | none =>
      rw [word?, List.find?_eq_none] at hword
      exact (hword w w.mem_all h).elim
    | some w' =>
      have h' := List.find?_some (p := fun w : Word => a.is w.package w.simple) hword
      rw [is_unique h h']

theorem Word.startsWith_root (w : Word) :
    startsWith (w.package ++ "." ++ w.simple) vocabularyRoot = true := by
  have hpackage : startsWith w.package vocabularyRoot = true := by
    rcases w.package_eq with hcore | hhttp
    · rw [hcore]
      decide +kernel
    · rw [hhttp]
      decide +kernel
  exact startsWith_append (startsWith_append hpackage ".") w.simple

/-- A foreign annotation is no word. -/
theorem AnnotationUse.word?_of_foreign {a : AnnotationUse}
    (h : isVocabulary a.qualifiedName = false) : a.word? = none := by
  unfold isVocabulary at h
  rw [Bool.or_eq_false_iff, Bool.and_eq_false_imp] at h
  obtain ⟨hroot, hsimple⟩ := h
  rw [word?, List.find?_eq_none]
  intro w hw his
  unfold AnnotationUse.is at his
  split at his
  · rw [beq_iff_eq.mp his, w.startsWith_root] at hroot
    cases hroot
  · rename_i hdots
    have hnone := hsimple (by rw [Bool.not_eq_true', ← Bool.not_eq_true]; exact hdots)
    have hsome : (Word.all.any fun w => w.simple == a.qualifiedName) = true :=
      List.any_eq_true.mpr ⟨w, hw, by rw [beq_iff_eq.mp his]; exact beq_self_eq_true _⟩
    rw [hsome] at hnone
    cases hnone

theorem isVocabulary_of_word? {a : AnnotationUse} {w : Word} (h : a.word? = some w) :
    isVocabulary a.qualifiedName = true := by
  by_contra hforeign
  rw [AnnotationUse.word?_of_foreign (Bool.eq_false_iff.mpr hforeign)] at h
  cases h

/-! ### Levels -/

namespace Word

/-- The words that give a function its method. -/
def methods : List Word :=
  [.get, .post, .put, .delete, .patch, .head, .options, .http]

def marks : List Word :=
  [.header, .headers, .cookie, .fragment, .formUrlEncoded, .multipart]

def steering : List Word :=
  [.ktorGenFunction, .ktorGenIgnore]

def roles : List Word :=
  [.body, .url, .path, .query, .queryName, .queryMap, .field, .fieldMap, .headerParam, .header,
   .headerMap, .part, .partMap, .tag, .fragment, .cookie]

end Word

namespace AnnotationUse

/-- One of the words fits the use. -/
def isAmong (words : List Word) (a : AnnotationUse) : Bool :=
  words.any fun w => a.is w.package w.simple

theorem isAmong_eq (words : List Word) (a : AnnotationUse) :
    a.isAmong words = a.word?.any fun w => words.contains w := by
  rw [Bool.eq_iff_iff, isAmong, List.any_eq_true, Option.any_eq_true]
  constructor
  · rintro ⟨w, hw, his⟩
    exact ⟨w, word?_eq_some_iff.mpr his, List.contains_iff_mem.mpr hw⟩
  · rintro ⟨w, hword, hw⟩
    exact ⟨w, List.contains_iff_mem.mp hw, word?_eq_some_iff.mp hword⟩

theorem isSome_readMethod? (a : AnnotationUse) : a.readMethod?.isSome = a.isAmong Word.methods := by
  rw [isAmong_eq, readMethod?]
  cases a.word? with
  | none => rfl
  | some w => cases w <;> rfl

theorem isSome_readMark? (a : AnnotationUse) : a.readMark?.isSome = a.isAmong Word.marks := by
  rw [isAmong_eq, readMark?]
  cases a.word? with
  | none => rfl
  | some w => cases w <;> rfl

theorem isSome_readRole? (a : AnnotationUse) (parameter : String) :
    (a.readRole? parameter).isSome = a.isAmong Word.roles := by
  rw [isAmong_eq, readRole?]
  cases a.word? with
  | none => rfl
  | some w => cases w <;> rfl

theorem isVocabulary_of_isAmong {a : AnnotationUse} {words : List Word}
    (h : a.isAmong words = true) : isVocabulary a.qualifiedName = true := by
  rw [isAmong_eq, Option.any_eq_true] at h
  obtain ⟨w, hword, -⟩ := h
  exact isVocabulary_of_word? hword

end AnnotationUse

/-! ### One use after the other -/

theorem passthroughOf_cons (a : AnnotationUse) (uses : List AnnotationUse) :
    passthroughOf (a :: uses) = passthroughOf [a] ++ passthroughOf uses :=
  List.filter_append [a] uses

theorem filterMap_cons_toList {α : Type} (read : AnnotationUse → Option α) (a : AnnotationUse)
    (uses : List AnnotationUse) :
    (a :: uses).filterMap read = (read a).toList ++ uses.filterMap read := by
  rw [List.filterMap_cons]
  cases read a <;> rfl

namespace FunctionReading

def start : FunctionReading :=
  ⟨[], [], .default, []⟩

/-- The reading after one more use, which goes to the first place that takes it. -/
def after (r : FunctionReading) (a : AnnotationUse) : FunctionReading :=
  match a.readMethod?, a.readMark? with
  | some method, _ => { r with methods := r.methods ++ [method] }
  | none, some mark => { r with marks := r.marks ++ [mark] }
  | none, none =>
    if a.isAmong Word.steering then { r with settings := r.settings.after a }
    else if isVocabulary a.qualifiedName then r
    else { r with passthrough := r.passthrough ++ [a] }

/-- What one use adds, place by place. -/
theorem after_eq (r : FunctionReading) (a : AnnotationUse) :
    r.after a = ⟨r.methods ++ a.readMethod?.toList, r.marks ++ a.readMark?.toList,
      r.settings.after a, r.passthrough ++ passthroughOf [a]⟩ := by
  unfold after
  cases hword : a.word? with
  | none =>
    cases hvocabulary : isVocabulary a.qualifiedName <;>
      simp [AnnotationUse.readMethod?, AnnotationUse.readMark?, AnnotationUse.isAmong_eq,
        FunctionSettings.after, passthroughOf, hword, hvocabulary]
  | some w =>
    have hvocabulary := isVocabulary_of_word? hword
    cases w <;>
      simp [AnnotationUse.readMethod?, AnnotationUse.readMark?, AnnotationUse.isAmong_eq,
        FunctionSettings.after, passthroughOf, hword, hvocabulary, Word.method?, Word.steering]

theorem foldl_after (uses : List AnnotationUse) (r : FunctionReading) :
    uses.foldl after r = ⟨r.methods ++ uses.filterMap AnnotationUse.readMethod?,
      r.marks ++ uses.filterMap AnnotationUse.readMark?,
      uses.foldl FunctionSettings.after r.settings, r.passthrough ++ passthroughOf uses⟩ := by
  induction uses generalizing r with
  | nil => simp [passthroughOf]
  | cons a uses ih =>
    rw [List.foldl_cons, ih, after_eq, passthroughOf_cons a uses, filterMap_cons_toList,
      filterMap_cons_toList, List.foldl_cons]
    simp only [List.append_assoc]

end FunctionReading

/-- The reading of a function is made in one pass. -/
theorem readFunctionAnnotations_eq_foldl (uses : List AnnotationUse) :
    readFunctionAnnotations uses = uses.foldl FunctionReading.after .start := by
  rw [FunctionReading.foldl_after]
  rfl

/-- The roles and what is passed through after one more use of a parameter. -/
def afterParameterUse (parameter : String) (r : List Role × List AnnotationUse)
    (a : AnnotationUse) : List Role × List AnnotationUse :=
  match a.readRole? parameter with
  | some role => (r.1 ++ [role], r.2)
  | none => if isVocabulary a.qualifiedName then r else (r.1, r.2 ++ [a])

theorem afterParameterUse_eq (parameter : String) (r : List Role × List AnnotationUse)
    (a : AnnotationUse) : afterParameterUse parameter r a
      = (r.1 ++ (a.readRole? parameter).toList, r.2 ++ passthroughOf [a]) := by
  unfold afterParameterUse
  cases hrole : a.readRole? parameter with
  | none =>
    cases hvocabulary : isVocabulary a.qualifiedName <;> simp [passthroughOf, hvocabulary]
  | some role =>
    have hamong : a.isAmong Word.roles = true := by
      rw [← a.isSome_readRole? parameter, hrole, Option.isSome_some]
    simp [passthroughOf, AnnotationUse.isVocabulary_of_isAmong hamong]

/-- The reading of a parameter is made in one pass. -/
theorem readParameterAnnotations_eq_foldl (uses : List AnnotationUse) (parameter : String) :
    readParameterAnnotations uses parameter
      = uses.foldl (afterParameterUse parameter) ([], []) := by
  suffices h : ∀ r : List Role × List AnnotationUse, uses.foldl (afterParameterUse parameter) r
      = (r.1 ++ uses.filterMap (AnnotationUse.readRole? parameter),
        r.2 ++ passthroughOf uses) from (h ([], [])).symm
  induction uses with
  | nil => simp [passthroughOf]
  | cons a uses ih =>
    intro r
    rw [List.foldl_cons, ih, afterParameterUse_eq, passthroughOf_cons a uses,
      filterMap_cons_toList]
    simp only [List.append_assoc]

/-! ### The partition -/

/-- There is one record for each use that one of the words fits, in order, and no other. -/
structure ReadsEach {α : Type} (words : List Word) (read : AnnotationUse → Option α)
    (uses : List AnnotationUse) (records : List α) : Prop where
  each : List.Forall₂ (fun a record => read a = some record)
    (uses.filter (AnnotationUse.isAmong words)) records
  others : ∀ a ∈ uses, a.isAmong words = false → read a = none

theorem readsEach_filterMap {α : Type} {words : List Word} {read : AnnotationUse → Option α}
    (h : ∀ a : AnnotationUse, (read a).isSome = a.isAmong words) (uses : List AnnotationUse) :
    ReadsEach words read uses (uses.filterMap read) := by
  constructor
  · have hread : uses.filterMap read
        = (uses.filter (AnnotationUse.isAmong words)).filterMap read := by
      rw [List.filterMap_filter]
      refine List.filterMap_congr fun a _ => ?_
      rw [← h a]
      cases read a <;> rfl
    rw [hread]
    refine forall₂_filterMap fun a ha => ?_
    have hsome := (h a).trans (List.mem_filter.mp ha).2
    obtain ⟨record, hrecord⟩ := Option.isSome_iff_exists.mp hsome
    exact ⟨record, hrecord, hrecord⟩
  · intro a _ hothers
    rw [← Option.isNone_iff_eq_none, ← Option.not_isSome, h a, hothers]
    rfl

/-- What is no word of the vocabulary is passed through, in order, by functions and parameters
    alike; every other use fits one word at most, and gives one record at the level of that
    word and none elsewhere. -/
theorem uses_partitioned (uses : List AnnotationUse) (parameter : String) :
    (∀ (a : AnnotationUse) (package simple : String), a.is package simple
        = if a.qualifiedName.toList.contains '.' then fits a.qualifiedName package simple
          else a.qualifiedName == simple)
      ∧ (∀ (a : AnnotationUse) (w : Word),
          a.is w.package w.simple = true ↔ a.qualifiedName = w.writtenIn a.qualifiedName)
      ∧ (∀ (a : AnnotationUse) (w w' : Word),
          a.is w.package w.simple = true → a.is w'.package w'.simple = true → w = w')
      ∧ (∀ (a : AnnotationUse) (w : Word),
          isVocabulary a.qualifiedName = false → a.is w.package w.simple = false)
      ∧ (readFunctionAnnotations uses).passthrough
          = uses.filter (fun a => !isVocabulary a.qualifiedName)
      ∧ (readParameterAnnotations uses parameter).2
          = uses.filter (fun a => !isVocabulary a.qualifiedName)
      ∧ ReadsEach Word.methods AnnotationUse.readMethod? uses
          (readFunctionAnnotations uses).methods
      ∧ ReadsEach Word.marks AnnotationUse.readMark? uses (readFunctionAnnotations uses).marks
      ∧ ReadsEach Word.roles (AnnotationUse.readRole? parameter) uses
          (readParameterAnnotations uses parameter).1
      ∧ readFunctionAnnotations uses = uses.foldl FunctionReading.after .start
      ∧ readParameterAnnotations uses parameter
          = uses.foldl (afterParameterUse parameter) ([], []) := by
  refine ⟨AnnotationUse.is_eq_fits, fun a w => AnnotationUse.is_iff,
    fun a w w' => AnnotationUse.is_unique, fun a w hforeign => ?_, rfl, rfl,
    readsEach_filterMap AnnotationUse.isSome_readMethod? uses,
    readsEach_filterMap AnnotationUse.isSome_readMark? uses,
    readsEach_filterMap (fun a => a.isSome_readRole? parameter) uses,
    readFunctionAnnotations_eq_foldl uses, readParameterAnnotations_eq_foldl uses parameter⟩
  rw [Bool.eq_false_iff]
  intro his
  rw [isVocabulary_of_word? (AnnotationUse.word?_eq_some_iff.mpr his)] at hforeign
  cases hforeign

end ClientGen
