/-
  ClientGen/Proofs/Request/StaticHeaders.lean
  ===========================================
  **The headers that the marks of a function add.**

  A `@Header` mark has a name and a value of its own.  It is joined to one text,
  `name: value`, which stands among the entries of the `@Headers` marks, and every text is
  cut at its first colon.  So each header that a mark asks for is added once, in order, and
  neither its name nor its value is blank; what is added is what the mark asks for, unless
  the name of a `@Header` mark has a colon itself (`static_headers`).
-/
import ClientGen.Proofs.Related
import ClientGen.Proofs.Request.Headers

namespace ClientGen.Request

open ClientGen.Code ClientGen.Path ClientGen.Text ClientGen.Validation

/-! ### Headers of marks -/

/-- A header that a mark asks for: a name with a value, or an entry with both in one text. -/
inductive StaticHeader where
  | given (name value : String)
  | entry (raw : String)
deriving DecidableEq, Repr

namespace StaticHeader

/-- The headers of a mark, in the order in which they stand there. -/
def ofMark : FunctionMark → List StaticHeader
  | .header name value => [.given name value]
  | .headers entries => entries.map .entry
  | _ => []

/-- The text that is cut at its first colon. -/
def raw : StaticHeader → String
  | .given name value => name ++ ": " ++ value
  | .entry raw => raw

/-- The name and the value that are asked for. -/
inductive Asks : StaticHeader → String → String → Prop
  | given (name value : String) : Asks (.given name value) (trim name) (trim value)
  | entry {raw front back : String} (cut : splitOnce ':' raw = some (front, back)) :
      Asks (.entry raw) (trim front) (trim back)

/-- The first colon of the text stands inside the name. -/
def isTorn : StaticHeader → Bool
  | .given name _ => name.toList.contains ':'
  | .entry _ => false

/-- What a statement adds for a header. -/
structure IsAdded (h : StaticHeader) (s : Statement) (name value : String) : Prop where
  call : ∃ call, s = .expression call ∧ addedHeader? call = some (name, value)
  cut : ∃ front back, splitOnce ':' h.raw = some (front, back)
    ∧ name = trim front ∧ value = trim back
  name_notBlank : isBlank name = false
  value_notBlank : isBlank value = false
  asked : h.Asks name value ↔ h.isTorn = false

theorem map_raw_ofMark (mark : FunctionMark) :
    (ofMark mark).map raw = FunctionModel.markHeaders mark := by
  cases mark with
  | headers entries => exact (List.map_map).trans (List.map_id entries)
  | _ => rfl

theorem rawHeaders_eq (f : FunctionModel) : f.rawHeaders = (f.marks.flatMap ofMark).map raw := by
  rw [List.map_flatMap]
  exact List.flatMap_congr fun mark _ => (map_raw_ofMark mark).symm

/-- A header is asked for as it is cut exactly when its name is not torn. -/
theorem asks_iff {h : StaticHeader} {front back : String}
    (hcut : splitOnce ':' h.raw = some (front, back)) :
    h.Asks (trim front) (trim back) ↔ h.isTorn = false := by
  cases h with
  | entry raw => exact ⟨fun _ => rfl, fun _ => .entry hcut⟩
  | given name value =>
    have hraw : raw (.given name value) = name ++ String.singleton ':' ++ (" " ++ value) := by
      rw [← String.toList_inj]
      simp [raw]
    rw [hraw] at hcut
    by_cases hcolon : ':' ∈ name.toList
    · have hfront : ':' ∉ (trim front).toList := fun hmem =>
        (splitOnce_eq_some hcut).2 (mem_of_mem_trim hmem)
      have hname : ':' ∈ (trim name).toList := (mem_trim (by decide)).mpr hcolon
      have htorn : isTorn (.given name value) = true := by simpa [isTorn] using hcolon
      rw [htorn]
      constructor
      · generalize trim front = front' at hfront
        generalize trim back = back'
        intro hasks
        cases hasks
        exact absurd hname hfront
      · intro h
        cases h
    · have htorn : isTorn (.given name value) = false := by simpa [isTorn] using hcolon
      rw [splitOnce_append hcolon] at hcut
      cases hcut
      rw [htorn, show (" " : String) = String.singleton ' ' from rfl, trim_blank_append (by decide)]
      exact ⟨fun _ => rfl, fun _ => .given _ _⟩

/-- A header that the checks pass is added. -/
theorem exists_isAdded {h : StaticHeader} (hname : isBlank (headerParts h.raw).1 = false)
    (hvalue : isBlank (headerParts h.raw).2 = false) :
    ∃ s, entryHeader? h.raw = some s ∧ ∃ name value, h.IsAdded s name value := by
  cases hcut : splitOnce ':' h.raw with
  | none =>
    -- Without a colon the checks find no value.
    rw [headerParts_eq, hcut] at hvalue
    cases hvalue
  | some e =>
    obtain ⟨front, back⟩ := e
    rw [headerParts_of_splitOnce hcut] at hname hvalue
    refine ⟨appendTo (quoted (trim front)) (quoted (trim back)), ?_, trim front, trim back, ?_⟩
    · rw [entryHeader?, hcut]
      rfl
    · exact {
        call := ⟨_, rfl, addedHeader?_literals _ _⟩
        cut := ⟨front, back, hcut, rfl, rfl⟩
        name_notBlank := by simpa using hname
        value_notBlank := by simpa using hvalue
        asked := asks_iff hcut }

end StaticHeader

/-! ### The static part of the header block -/

/-- Behind the headers of parameters, every header that a mark asks for is added once and in
    order, and as it is asked for unless its name is torn. -/
theorem static_headers {m m' : InterfaceModel} {o : Options} {log log' : Log}
    (hvalidate : (validate Check.all m o).run.run log = (.ok (some m'), log'))
    {f : FunctionModel} (hf : f ∈ m'.generatedFunctions) :
    ∃ pieces, bindPath f = .ok pieces ∧ ∀ names, ∃ types own statics,
      ((writePopulation f pieces).run names).1.headers
          = formContentType f types ++ blockUnlessEmpty "this.headers" (own ++ statics)
        ∧ EmitsAll (usesIn f .headers) own
        ∧ List.Forall₂ (fun h s => ∃ name value, StaticHeader.IsAdded h s name value)
            (f.marks.flatMap StaticHeader.ofMark) statics := by
  obtain ⟨rfl, haccepted⟩ := accepted_of_validate hvalidate
  obtain ⟨pieces, hbind, -⟩ := bindPath_eq_ok (haccepted.path hf)
  obtain ⟨hentries, -⟩ := haccepted.headers hf
  refine ⟨pieces, hbind, fun names => ?_⟩
  obtain ⟨types, hlayout⟩ := writePopulation_headers pieces (writeHeaders_layout f) names
  refine ⟨types, _, _, hlayout, picks_header.emitsAll f, ?_⟩
  rw [StaticHeader.rawHeaders_eq] at hentries ⊢
  rw [List.filterMap_map]
  refine forall₂_filterMap fun h hh => ?_
  obtain ⟨hname, hvalue⟩ := hentries h.raw (List.mem_map_of_mem hh)
  exact StaticHeader.exists_isAdded hname hvalue

/-- An interface whose function has a header of each kind, one of them with a colon in its
    value. -/
def InterfaceModel.ofHeaders : InterfaceModel :=
  .holding "Sender" [{
    FunctionDeclaration.getting "items"
      [⟨"who", .named "kotlin.String", false, [⟨"HeaderParam", [("name", .string "X-Who")]⟩]⟩]
      (.named "kotlin.String") with
    annotations := [⟨"GET", [("value", .string "items")]⟩,
      ⟨"Headers", [("value", .array [.string "Content-Type : text/plain", .string "X-A: b"])]⟩,
      ⟨"Header", [("name", .string "X-From"), ("value", .string "host:80")]⟩] }]

theorem static_headers_of_sender : ∃ f ∈ InterfaceModel.ofHeaders.generatedFunctions,
    ∃ pieces, bindPath f = .ok pieces ∧ ∀ names, ∃ types own statics,
      ((writePopulation f pieces).run names).1.headers
          = formContentType f types ++ blockUnlessEmpty "this.headers" (own ++ statics)
        ∧ EmitsAll (usesIn f .headers) own
        ∧ List.Forall₂ (fun h s => ∃ name value, StaticHeader.IsAdded h s name value)
            (f.marks.flatMap StaticHeader.ofMark) statics := by
  have haccepted : Accepted Check.all InterfaceModel.ofHeaders .default :=
    errorsOf_eq_zero.mp (by decide +kernel)
  obtain ⟨log', hvalidate⟩ := validate_of_accepted rfl haccepted (.opened "")
  obtain ⟨f, hf⟩ := List.exists_mem_of_ne_nil InterfaceModel.ofHeaders.generatedFunctions
    (List.isEmpty_eq_false_iff.mp (by decide +kernel))
  exact ⟨f, hf, static_headers hvalidate hf⟩

/-- An interface whose function has a header with a colon in its name. -/
def InterfaceModel.ofTornHeader : InterfaceModel :=
  .holding "Sender" [{
    FunctionDeclaration.getting "items" [] (.named "kotlin.String") with
    annotations := [⟨"GET", [("value", .string "items")]⟩,
      ⟨"Header", [("name", .string "X:Y"), ("value", .string "z")]⟩] }]

/-- Not every header is added as its mark asks for it. -/
theorem header_may_be_torn : ¬ ∀ (m m' : InterfaceModel) (o : Options) (log log' : Log),
    (validate Check.all m o).run.run log = (.ok (some m'), log') →
      ∀ f ∈ m'.generatedFunctions, ∀ pieces, bindPath f = .ok pieces → ∀ names,
        ∀ h ∈ f.marks.flatMap StaticHeader.ofMark,
          ∃ call ∈ callsIn ((writePopulation f pieces).run names).1.headers,
            ∃ name value, addedHeader? call = some (name, value) ∧ h.Asks name value := by
  intro hall
  have haccepted : Accepted Check.all InterfaceModel.ofTornHeader .default :=
    errorsOf_eq_zero.mp (by decide +kernel)
  obtain ⟨log', hvalidate⟩ := validate_of_accepted rfl haccepted (.opened "")
  obtain ⟨f, hf, hmarks, hform, hadded⟩ : ∃ f ∈ InterfaceModel.ofTornHeader.generatedFunctions,
      f.marks.flatMap StaticHeader.ofMark = [.given "X:Y" "z"] ∧ f.isFormUrl = false
        ∧ (callsIn (headerBody f)).filterMap addedHeader? = [("X", "Y: z")] := by
    decide +kernel
  obtain ⟨pieces, hbind, -⟩ := bindPath_eq_ok (haccepted.path hf)
  obtain ⟨call, hcall, name, value, hname, hasks⟩ :=
    hall _ _ _ _ _ hvalidate f hf pieces hbind (.empty "") (.given "X:Y" "z")
      (by rw [hmarks]; exact List.mem_singleton_self _)
  obtain ⟨types, hlayout⟩ := writePopulation_headers pieces (writeHeaders_layout f) (.empty "")
  have hcontentType : formContentType f types = [] := by
    rw [formContentType, hform]
    rfl
  rw [hlayout, hcontentType, List.nil_append, callsIn_blockUnlessEmpty] at hcall
  have hmem := List.mem_filterMap.mpr ⟨call, hcall, hname⟩
  rw [hadded, List.mem_singleton] at hmem
  cases hasks
  revert hmem
  decide

end ClientGen.Request
