/-
  ClientGen/Proofs/Request/Headers.lean
  =====================================
  **What the headers of a request say.**

  A header statement is text, so what it says is read back from its call: the literals
  behind `this.append(` are a name and perhaps a value (`namedHeader?`, `addedHeader?`), and
  `this.contentType(` names the content type without a literal.  The entries of a map have
  names that only a run knows, and nothing is read from them.

  The checks compare names with every blank removed and cut where the first colon is left,
  while writing trims what it has cut from the text as it stands.  Both find the same
  content types, so an accepted function names one at most and none beside a form
  (`contentType_once`).
-/
import ClientGen.Proofs.Code.Literals
import ClientGen.Proofs.Request.Sections
import ClientGen.Proofs.Text.Blank
import ClientGen.Proofs.Validation.Checked
import Mathlib.Data.List.Count

namespace ClientGen.Request

open ClientGen.Code ClientGen.Path ClientGen.Text ClientGen.Validation

/-! ### Reading calls back -/

/-- The arguments of a call that adds a header, with what stands behind them. -/
def appendArguments? (call : String) : Option (List Char) :=
  dropFront "this.append(".toList call.toList

/-- The text of entries that interpolate nothing. -/
def plainText? : List Entry → Option String
  | [] => some ""
  | [.text content] => some content
  | _ => none

/-- The text of the literal in front, and what stands behind it. -/
def literal? (cs : List Char) : Option (String × List Char) := do
  let (entries, behind) ← readLiteral cs
  let text ← plainText? entries
  return (text, behind)

/-- The header that a call names, when the name stands in the call. -/
def namedHeader? (call : String) : Option String :=
  match appendArguments? call with
  | some arguments => (literal? arguments).map Prod.fst
  | none => if startsWith call "this.contentType(" then some "Content-Type" else none

/-- The name and the value of a header, when the call adds it by two literals. -/
def addedHeader? (call : String) : Option (String × String) := do
  let (name, behind) ← literal? (← appendArguments? call)
  let (value, behind) ← literal? (← dropFront ", ".toList behind)
  if behind = [')'] then some (name, value) else none

/-- The call adds a header. -/
def isAppend (call : String) : Bool :=
  (appendArguments? call).isSome

/-- The call names the content type. -/
def namesContentType (call : String) : Bool :=
  (namedHeader? call).any isContentType

theorem plainText?_textRun (s : String) : plainText? (textRun s.toList) = some s := by
  by_cases h : s = ""
  · rw [h]
    rfl
  · rw [textRun_toList h]
    rfl

theorem literal?_quoted (s : String) (rest : List Char) :
    literal? ((quoted s).toList ++ rest) = some (s, rest) := by
  simp [literal?, readLiteral_quoted, plainText?_textRun]

theorem appendArguments?_appended (name value : String) :
    appendArguments? (appended name value)
      = some (name.toList ++ (", " ++ value ++ ")").toList) := by
  unfold appendArguments? appended
  rw [String.append_assoc, String.append_assoc, String.append_assoc, String.toList_append,
    dropFront_self, String.toList_append, String.append_assoc]

theorem namedHeader?_literal (name value : String) :
    namedHeader? (appended (quoted name) value) = some name := by
  simp [namedHeader?, appendArguments?_appended, literal?_quoted]

theorem addedHeader?_literals (name value : String) :
    addedHeader? (appended (quoted name) (quoted value)) = some (name, value) := by
  simp [addedHeader?, appendArguments?_appended, literal?_quoted, dropFront]

theorem literal?_key (t : TypeRef) (rest : List Char) :
    literal? ((EntryNames.of t).key.toList ++ rest) = none := by
  unfold EntryNames.of
  cases t.isPair with
  | false => rfl
  | true => rfl

/-- The name of an entry is no literal. -/
theorem namedHeader?_key (t : TypeRef) (value : String) :
    namedHeader? (appended (EntryNames.of t).key value) = none := by
  simp only [namedHeader?, appendArguments?_appended, literal?_key, Option.map_none]

theorem appendArguments?_contentType (rest : String) :
    appendArguments? ("this.contentType(" ++ rest) = none := by
  unfold appendArguments?
  rw [String.toList_append]
  exact dropFront_eq_none (differ_append (by decide) _)

theorem namedHeader?_contentType (rest : String) :
    namedHeader? ("this.contentType(" ++ rest) = some "Content-Type" := by
  unfold namedHeader?
  rw [appendArguments?_contentType]
  exact if_pos (startsWith_append (by decide) rest)

/-! ### Named headers -/

/-- The headers that the calls of statements name. -/
def headersNamed (ss : List Statement) : List String :=
  (callsIn ss).filterMap namedHeader?

theorem headersNamed_append (ss ss' : List Statement) :
    headersNamed (ss ++ ss') = headersNamed ss ++ headersNamed ss' := by
  rw [headersNamed, callsIn_append, List.filterMap_append]
  rfl

theorem headersNamed_singleton {s : Statement} {call : String} (h : callsOf s = [call]) :
    headersNamed [s] = (namedHeader? call).toList := by
  unfold headersNamed
  rw [callsIn_singleton, h]
  cases hname : namedHeader? call with
  | none => exact List.filterMap_cons_none hname
  | some name => exact List.filterMap_cons_some hname

theorem headersNamed_flatMap {α : Type} (xs : List α) (write : α → List Statement) :
    headersNamed (xs.flatMap write) = xs.flatMap fun x => headersNamed (write x) := by
  induction xs with
  | nil => rfl
  | cons x xs ih => rw [List.flatMap_cons, List.flatMap_cons, headersNamed_append, ih]

theorem headersNamed_filterMap {α : Type} {xs : List α} {write : α → Option Statement}
    {name? : α → Option String}
    (h : ∀ x ∈ xs, headersNamed (write x).toList = (name? x).toList) :
    headersNamed (xs.filterMap write) = xs.filterMap name? := by
  rw [List.filterMap_eq_flatMap_toList, List.filterMap_eq_flatMap_toList, headersNamed_flatMap]
  exact List.flatMap_congr h

/-- The header that a role names. -/
def headerName? : Role → Option String
  | .header name => some (trim name)
  | _ => none

/-- The header that an entry names: what stands before its first colon. -/
def entryName? (raw : String) : Option String :=
  (splitOnce ':' raw).map fun e => trim e.1

/-- The headers that parameters and marks name. -/
def explicitHeaders (f : FunctionModel) : List String :=
  (f.parameters.flatMap fun p => p.roles).filterMap headerName? ++ f.rawHeaders.filterMap entryName?

theorem callsOf_eachEntry (call : String → Value → String) (p : ParameterModel) :
    ∃ v, callsOf (eachEntry p fun key v => .expression (call key v))
      = [call (EntryNames.of p.type).key v] := by
  have hentry : ∃ v, callsIn [entryStatement p.type fun key v => .expression (call key v)]
      = [call (EntryNames.of p.type).key v] := by
    rw [callsIn_singleton]
    unfold entryStatement
    split
    · exact ⟨_, callsOf_lambda _ _ _⟩
    · exact ⟨_, rfl⟩
  obtain ⟨v, hv⟩ := hentry
  refine ⟨v, ?_⟩
  unfold eachEntry
  split
  · rw [callsOf_lambda, hv]
  · split
    · rw [callsOf_lambda, hv]
    · rw [callsOf_lambda, callsIn_singleton, callsOf_lambda, hv]

theorem headersNamed_role (p : ParameterModel) (r : Role) :
    headersNamed (headerStatement? p r).toList = (headerName? r).toList := by
  cases r with
  | header name =>
    obtain ⟨v, hv⟩ := (eachValue_runsOn (fun v => appended (quoted (trim name)) v.text) p.name
      p.shape).calls
    refine (headersNamed_singleton hv).trans ?_
    rw [namedHeader?_literal]
    rfl
  | headerMap =>
    obtain ⟨v, hv⟩ := callsOf_eachEntry (fun key v => appended key v.text) p
    refine (headersNamed_singleton hv).trans ?_
    rw [namedHeader?_key]
    rfl
  | _ => rfl

theorem headersNamed_entry (raw : String) :
    headersNamed (entryHeader? raw).toList = (entryName? raw).toList := by
  unfold entryHeader? entryName?
  cases splitOnce ':' raw with
  | none => rfl
  | some e =>
    have hcalls : callsOf (appendTo (quoted (trim e.1)) (quoted (trim e.2)))
        = [appended (quoted (trim e.1)) (quoted (trim e.2))] :=
      rfl
    refine (headersNamed_singleton hcalls).trans ?_
    rw [namedHeader?_literal]
    rfl

theorem headersNamed_headerBody (f : FunctionModel) :
    headersNamed (headerBody f) = explicitHeaders f := by
  unfold headerBody explicitHeaders roleStatements
  rw [headersNamed_append, headersNamed_flatMap, List.filterMap_flatMap,
    headersNamed_filterMap fun raw _ => headersNamed_entry raw]
  congr 1
  exact List.flatMap_congr fun p _ => headersNamed_filterMap fun r _ => headersNamed_role p r

/-! ### Sections of headers -/

/-- The header that a form names without a mark or a parameter. -/
def impliedHeaders (f : FunctionModel) : List String :=
  if f.isFormUrl && !f.isMultipart then ["Content-Type"] else []

theorem headersNamed_formContentType (f : FunctionModel) (types : String) :
    headersNamed (formContentType f types) = impliedHeaders f := by
  unfold formContentType impliedHeaders
  split
  · refine (headersNamed_singleton rfl).trans ?_
    rw [String.append_assoc, namedHeader?_contentType]
    rfl
  · rfl

/-- What holds of every section of headers holds of the one in a request. -/
theorem writePopulation_headers {f : FunctionModel} (pieces : List PathPiece)
    {P : List Statement → Prop} (h : Writes (writeHeaders f) P) :
    Writes (writePopulation f pieces) fun r => P r.headers := by
  unfold writePopulation
  refine (Writes.trivial _).bind fun builders _ => ?_
  refine (Writes.trivial _).bind fun method _ => ?_
  refine (Writes.trivial _).bind fun url _ => ?_
  refine h.bind fun headers hheaders => ?_
  refine (Writes.trivial _).bind fun cookies _ => ?_
  refine (Writes.trivial _).bind fun body _ => ?_
  refine (Writes.trivial _).bind fun tags _ => ?_
  exact .pure hheaders

/-! ### The content type -/

theorem isContentType_removeBlanks {name : String} (h : isContentType name = true) :
    isContentType (removeBlanks name) = true := by
  have hlower : asciiLower (trim name) = asciiLower "Content-Type" := eq_of_beq h
  have hletters : (asciiLower "Content-Type").toList.all (fun c => !isBlankChar c) = true := by
    decide
  have hblank : ∀ c ∈ (trim name).toList, isBlankChar c = false := by
    apply noBlank_of_asciiLower
    rw [hlower]
    intro c hc
    simpa using List.all_eq_true.mp hletters c hc
  rw [← removeBlanks_trim, removeBlanks_of_noBlank hblank]
  unfold isContentType
  rw [trim_of_noBlank hblank]
  exact h

/-- The checks find the parts of the text as it stands, without their blanks. -/
theorem headerParts_eq (raw : String) :
    headerParts raw = ((splitOnce ':' raw).map fun e => (removeBlanks e.1, removeBlanks e.2)).getD
      (removeBlanks raw, "") := by
  have hcolon : isBlankChar ':' = false := by decide
  rw [headerParts, splitOnce_removeBlanks hcolon]

theorem headerParts_of_splitOnce {raw front back : String}
    (h : splitOnce ':' raw = some (front, back)) :
    headerParts raw = (removeBlanks front, removeBlanks back) := by
  rw [headerParts_eq, h]
  rfl

/-- An entry that is written under the name of the content type gives it to the checks. -/
theorem givesContentType_of_entryName {raw name : String} (hraw : entryName? raw = some name)
    (h : isContentType name = true) : givesContentType raw = true := by
  obtain ⟨⟨front, back⟩, hsplit, rfl⟩ := Option.map_eq_some_iff.mp hraw
  unfold givesContentType
  rw [headerParts_of_splitOnce hsplit, ← removeBlanks_trim]
  exact isContentType_removeBlanks h

theorem roleGivesContentType_of_headerName {r : Role} {name : String}
    (hr : headerName? r = some name) (h : isContentType name = true) :
    roleGivesContentType r = true := by
  cases r with
  | header text =>
    cases hr
    change isContentType (removeBlanks text) = true
    rw [← removeBlanks_trim]
    exact isContentType_removeBlanks h
  | _ => cases hr

theorem countP_filterMap_le {α β : Type} {name? : α → Option β} {p : β → Bool} {q : α → Bool}
    (h : ∀ a b, name? a = some b → p b = true → q a = true) (xs : List α) :
    (xs.filterMap name?).countP p ≤ (xs.filter q).length := by
  rw [List.countP_filterMap, ← List.countP_eq_length_filter]
  refine List.countP_mono_left fun a _ ha => ?_
  cases hname : name? a with
  | none =>
    rw [hname] at ha
    cases ha
  | some b =>
    rw [hname] at ha
    exact h a b hname ha

/-- Writing names the content type no more often than the checks find it. -/
theorem countP_explicitHeaders_le (f : FunctionModel) :
    (explicitHeaders f).countP isContentType ≤ contentTypeCount f := by
  unfold explicitHeaders contentTypeCount
  rw [List.countP_append, Nat.add_comm]
  exact Nat.add_le_add
    (countP_filterMap_le (fun _ _ => givesContentType_of_entryName) _)
    (countP_filterMap_le (fun _ _ => roleGivesContentType_of_headerName) _)

theorem countP_namesContentType (ss : List Statement) :
    (callsIn ss).countP namesContentType = (headersNamed ss).countP isContentType := by
  rw [headersNamed, List.countP_filterMap]
  refine List.countP_congr fun call _ => ?_
  unfold namesContentType
  cases namedHeader? call <;> rfl

/-- The content type among the header statements of a function. -/
structure OneContentType (f : FunctionModel) (headers : List Statement) : Prop where
  /-- The headers that are named are those of a form, of parameters and of marks. -/
  named : headersNamed headers = impliedHeaders f ++ explicitHeaders f
  once : (callsIn headers).countP namesContentType ≤ 1
  implied : (f.isFormUrl || f.isMultipart) = true →
    ∀ call ∈ callsIn headers, isAppend call = true → namesContentType call = false

theorem writeHeaders_oneContentType {f : FunctionModel} (hone : contentTypeCount f ≤ 1)
    (hnone : (f.isFormUrl || f.isMultipart) = true → contentTypeCount f = 0) :
    Writes (writeHeaders f) (OneContentType f) := by
  refine (writeHeaders_layout f).imp ?_
  rintro _ ⟨types, rfl⟩
  have hexplicit := countP_explicitHeaders_le f
  have hbody : headersNamed (blockUnlessEmpty "this.headers" (headerBody f))
      = explicitHeaders f := by
    rw [← headersNamed_headerBody, headersNamed, callsIn_blockUnlessEmpty]
    rfl
  have hnamed : headersNamed (formContentType f types
      ++ blockUnlessEmpty "this.headers" (headerBody f))
        = impliedHeaders f ++ explicitHeaders f := by
    rw [headersNamed_append, headersNamed_formContentType, hbody]
  refine ⟨hnamed, ?_, ?_⟩
  · rw [countP_namesContentType, hnamed, List.countP_append]
    unfold impliedHeaders
    split
    · rename_i hform
      rw [Bool.and_eq_true] at hform
      have hzero := hnone (by rw [hform.1]; rfl)
      have himplied : ["Content-Type"].countP isContentType ≤ 1 := List.countP_le_length
      omega
    · rw [List.countP_nil]
      omega
  · intro hstyle call hcall happend
    rw [callsIn_append, List.mem_append] at hcall
    rcases hcall with hcall | hcall
    · unfold formContentType at hcall
      split at hcall
      · rw [callsIn_singleton, callsOf, List.mem_singleton] at hcall
        rw [hcall, isAppend, String.append_assoc, appendArguments?_contentType] at happend
        cases happend
      · cases hcall
    · have hzero := hnone hstyle
      rw [← hbody, ← countP_namesContentType] at hexplicit
      have hcount : (callsIn (blockUnlessEmpty "this.headers" (headerBody f))).countP
          namesContentType = 0 := by
        omega
      simpa using List.countP_eq_zero.mp hcount call hcall

/-- The content type is named once at most in the request of an accepted function, and only
    by itself when the function is form encoded or multipart. -/
theorem contentType_once {m m' : InterfaceModel} {o : Options} {log log' : Log}
    (hvalidate : (validate Check.all m o).run.run log = (.ok (some m'), log'))
    {f : FunctionModel} (hf : f ∈ m'.generatedFunctions) :
    ∃ pieces, bindPath f = .ok pieces
      ∧ ∀ names, OneContentType f ((writePopulation f pieces).run names).1.headers := by
  obtain ⟨rfl, haccepted⟩ := accepted_of_validate hvalidate
  obtain ⟨pieces, hbind, -⟩ := bindPath_eq_ok (haccepted.path hf)
  obtain ⟨-, hone, hnone⟩ := haccepted.headers hf
  exact ⟨pieces, hbind, writePopulation_headers pieces (writeHeaders_oneContentType hone hnone)⟩

def InterfaceModel.ofContentTypes : InterfaceModel :=
  .holding "Sender" [
    .getting "forms"
      [⟨"who", .named "kotlin.String", false, [⟨"HeaderParam", [("name", .string "X-Who")]⟩]⟩,
        ⟨"kind", .named "kotlin.String", false, [⟨"Field", []⟩]⟩]
      (.named "kotlin.String"),
    { FunctionDeclaration.getting "texts" [] (.named "kotlin.String") with
      annotations := [⟨"GET", [("value", .string "texts")]⟩,
        ⟨"Headers", [("value", .array [.string "CONTENT-type\t: text/plain"])]⟩] }]

theorem contentType_once_of_sender : InterfaceModel.ofContentTypes.generatedFunctions.length = 2
    ∧ ∀ f ∈ InterfaceModel.ofContentTypes.generatedFunctions, ∃ pieces, bindPath f = .ok pieces
      ∧ ∀ names, OneContentType f ((writePopulation f pieces).run names).1.headers := by
  have haccepted : Accepted Check.all InterfaceModel.ofContentTypes .default :=
    errorsOf_eq_zero.mp (by decide +kernel)
  obtain ⟨log', hvalidate⟩ := validate_of_accepted rfl haccepted (.opened "")
  exact ⟨by decide +kernel, fun f hf => contentType_once hvalidate hf⟩

end ClientGen.Request
