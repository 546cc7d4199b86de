/-
  ClientGen/Proofs/Declaration/Display.lean
  =========================================
  **The display of a type is read back.**

  A small reader goes through a display from left to right (`type?`).  It knows where a
  name ends, at the punctuation of types or where a receiver is left, and what is in
  parentheses: parameters when an arrow follows, a nullable function type when a question
  mark does.  So a display gives back what it shows of the type (`readsBelow`), and two types
  with one display are the same.

  A function type that is a receiver is the exception unless it is nullable: nothing shows
  where it ends, and the arrow of the whole is taken for its own.  Only where both functions
  suspend, the two words in front tell that there are two arrows, and the receiver is found
  again if its results have no arrow that could be the second one.
-/
import ClientGen.Proofs.Declaration.Arrows
import ClientGen.Proofs.Text.Pieces

namespace ClientGen.Display

open ClientGen.Text

/-! ### Names -/

def isMark (c : Char) : Bool :=
  [' ', ',', '<', '>', '(', ')', '?', '*'].contains c

/-- No mark is in the name and no dot at its end, as in every dotted identifier. -/
def isName (name : String) : Bool :=
  name.toList.all (fun c => !isMark c) && name.toList.getLast?.any fun c => c != '.'

/-- The receiver of the signature is no function type, or it is in parentheses, or both
    functions suspend and the arrow of the whole is the first one that can be behind it. -/
def closesReceiver (t : TypeRef) : Bool :=
  t.function.all fun f => f.receiver.all fun r =>
    r.function.isNone || r.nullable
      || (f.suspending && r.function.any FunctionType.suspending && (split r).isNone)

/-- A type whose display can be read back, when all types inside are of this kind. -/
structure Legible (t : TypeRef) : Prop where
  name : t.function = none → isName t.qualifiedName = true
  receiver : closesReceiver t = true

instance (t : TypeRef) : Decidable (Legible t) :=
  decidable_of_iff
    ((t.function = none → isName t.qualifiedName = true) ∧ closesReceiver t = true)
    ⟨fun h => ⟨h.1, h.2⟩, fun h => ⟨h.name, h.receiver⟩⟩

/-- Everything that shows in the type is legible. -/
def Readable (t : TypeRef) : Prop :=
  ∀ n, t.Shows n → Legible n

/-! ### Reading -/

abbrev Reader (α : Type) : Type := List Char → Option (α × List Char)

/-- A name is left here: at a mark, or at the dot behind a receiver. -/
def endsName : List Char → Bool
  | [] => true
  | c :: cs => isMark c || (c == '.' && cs.head? == some '(')

def takeName : List Char → List Char × List Char
  | [] => ([], [])
  | c :: cs => if endsName (c :: cs) then ([], c :: cs) else (c :: (takeName cs).1, (takeName cs).2)

/-- Whether the text stands in front, and what is left without it. -/
def skip (front : String) (cs : List Char) : Bool × List Char :=
  match dropFront front.toList cs with
  | some behind => (true, behind)
  | none => (false, cs)

/-- Items with commas between them, and the character that closes them. -/
def sequence? {α : Type} (item : Reader α) (close : Char) : Nat → Reader (List α)
  | 0, _ => none
  | n + 1, cs =>
    match item cs with
    | some (a, ',' :: ' ' :: cs) => (sequence? item close n cs).map fun (as, cs) => (a :: as, cs)
    | some (a, c :: cs) => if c = close then some ([a], cs) else none
    | _ => none

def group? (item : Reader TypeRef) (n : Nat) (cs : List Char) :
    Option (List TypeRef × List Char) :=
  match sequence? item ')' n cs with
  | some found => some found
  | none => (dropFront [')'] cs).map fun cs => ([], cs)

def argument? (item : Reader TypeRef) (cs : List Char) : Option (TypeArgument × List Char) :=
  match item cs with
  | some (t, cs) => some (.type t, cs)
  | none => (dropFront ['*'] cs).map fun cs => (.star, cs)

def arguments? (item : Reader TypeRef) (n : Nat) : Reader (List TypeArgument)
  | '<' :: cs => sequence? (argument? item) '>' n cs
  | cs => some ([], cs)

def plain? (item : Reader TypeRef) (n : Nat) (cs : List Char) : Option (TypeRef × List Char) :=
  let (name, cs) := takeName cs
  if name.isEmpty then none
  else (arguments? item n cs).map fun (arguments, cs) =>
    let (nullable, cs) := skip "?" cs
    (⟨String.ofList name, nullable, arguments, true, false, none⟩, cs)

/-- What a type begins with: a type that can be a receiver, or parameters. -/
def front? (item : Reader TypeRef) (n : Nat) : Reader (TypeRef ⊕ List TypeRef)
  | '(' :: cs =>
    match group? item n cs with
    | some ([t], '?' :: cs) => some (.inl { t with nullable := true }, cs)
    | some (parameters, cs) => some (.inr parameters, cs)
    | none => none
  | cs => (plain? item n cs).map fun (t, cs) => (.inl t, cs)

def result? (item : Reader TypeRef) (suspending : Bool) (receiver : Option TypeRef)
    (parameters : List TypeRef) (cs : List Char) : Option (TypeRef × List Char) := do
  let (returnType, cs) ← item (← dropFront " -> ".toList cs)
  return (.ofSignature false ⟨receiver, parameters, returnType, suspending⟩, cs)

/-- A suspending type behind another `suspend`, which makes it end at its first arrow. -/
def outer? (item : Reader TypeRef) (cs : List Char) : Option (TypeRef × List Char) := do
  let (t, cs) ← item cs
  let a ← split t
  return (.ofSignature false ⟨some a.receiver, a.parameters, a.returnType, true⟩, cs)

/-- A type, given a reader of the types inside it. -/
def typeFrom (item : Reader TypeRef) (n : Nat) (cs : List Char) : Option (TypeRef × List Char) :=
  let (suspending, cs) := skip "suspend " cs
  if suspending && (skip "suspend " cs).1 then outer? item cs
  else
    match front? item n cs with
    | some (.inl receiver, '.' :: '(' :: cs) => do
      let (parameters, cs) ← group? item n cs
      result? item suspending (some receiver) parameters cs
    | some (.inl t, cs) => some (t, cs)
    | some (.inr parameters, cs) => result? item suspending none parameters cs
    | none => none

def type? : Nat → Reader TypeRef
  | 0, _ => none
  | n + 1, cs => typeFrom (type? n) n cs

/-! ### What stands behind -/

/-- Behind a type stands nothing, or what closes or goes on with its surroundings. -/
def Ends : List Char → Prop
  | [] => True
  | c :: _ => c = ',' ∨ c = ')' ∨ c = '>'

/-- Behind a type that may be a receiver, parameters may stand besides. -/
def FrontEnds (rest : List Char) : Prop :=
  Ends rest ∨ ∃ cs, rest = '.' :: '(' :: cs

/-- The reader gives back what is shown of the type. -/
def Reads (item : Reader TypeRef) (t : TypeRef) : Prop :=
  ∀ rest, Ends rest → item (t.display.toList ++ rest) = some (t.shown, rest)

theorem FrontEnds.cases {rest : List Char} (h : FrontEnds rest) :
    rest = [] ∨ ∃ c cs, rest = c :: cs
      ∧ (c = ',' ∨ c = ')' ∨ c = '>' ∨ c = '.' ∧ cs.head? = some '(') := by
  rcases h with hends | ⟨cs, rfl⟩
  · cases rest with
    | nil => exact .inl rfl
    | cons c cs =>
      refine .inr ⟨c, cs, rfl, ?_⟩
      rcases hends with hc | hc | hc
      · exact .inl hc
      · exact .inr (.inl hc)
      · exact .inr (.inr (.inl hc))
  · exact .inr ⟨'.', '(' :: cs, rfl, .inr (.inr (.inr ⟨rfl, rfl⟩))⟩

theorem FrontEnds.endsName {rest : List Char} (h : FrontEnds rest) : endsName rest = true := by
  rcases h.cases with rfl | ⟨c, cs, rfl, rfl | rfl | rfl | ⟨rfl, hcs⟩⟩
  · rfl
  · rfl
  · rfl
  · rfl
  · simp [Display.endsName, hcs]

theorem FrontEnds.skip {rest : List Char} (h : FrontEnds rest) : skip "?" rest = (false, rest) := by
  rcases h.cases with rfl | ⟨c, cs, rfl, rfl | rfl | rfl | ⟨rfl, hcs⟩⟩
  · rfl
  · rfl
  · rfl
  · rfl
  · rfl

theorem FrontEnds.head? {rest : List Char} (h : FrontEnds rest) :
    ∀ c ∈ rest.head?, c ∈ [',', ')', '>', '.'] := by
  rcases h.cases with rfl | ⟨c, cs, rfl, hc⟩
  · simp
  · simp only [List.head?_cons, Option.mem_some_iff, List.mem_cons]
    rintro d rfl
    rcases hc with hc | hc | hc | ⟨hc, -⟩
    · exact .inl hc
    · exact .inr (.inl hc)
    · exact .inr (.inr (.inl hc))
    · exact .inr (.inr (.inr (.inl hc)))

theorem skip_append (front : String) (rest : List Char) :
    skip front (front.toList ++ rest) = (true, rest) := by
  rw [skip, dropFront_self]

theorem takeName_append {name rest : List Char} (hmarks : ∀ c ∈ name, isMark c = false)
    (hlast : name.getLast? ≠ some '.') (hrest : endsName rest = true) :
    takeName (name ++ rest) = (name, rest) := by
  induction name with
  | nil =>
    cases rest with
    | nil => rfl
    | cons c cs => rw [List.nil_append, takeName, if_pos hrest]
  | cons c name ih =>
    have hgoes : endsName (c :: (name ++ rest)) = false := by
      rw [endsName, hmarks c List.mem_cons_self, Bool.false_or, Bool.and_eq_false_imp]
      intro hdot
      cases name with
      | nil =>
        rw [beq_iff_eq] at hdot
        exact (hlast (by rw [hdot]; rfl)).elim
      | cons d name =>
        -- a parenthesis behind the dot would be a mark inside the name
        have hd := hmarks d (by simp)
        rw [List.cons_append, List.head?_cons, beq_eq_false_iff_ne]
        intro hparen
        cases hparen
        cases hd
    have hlast' : name.getLast? ≠ some '.' := by
      cases name with
      | nil => simp
      | cons d name => rwa [List.getLast?_cons_cons] at hlast
    rw [List.cons_append, takeName, hgoes,
      ih (fun d hd => hmarks d (List.mem_cons_of_mem _ hd)) hlast']
    rfl

/-! ### Lists of types -/

section Lists

variable {item : Reader TypeRef}

theorem sequence?_join {α β : Type} {item : Reader β} {text : α → String} {value : α → β}
    {close : Char} (hclose : close = ')' ∨ close = '>') {xs : List α} (hxs : xs ≠ [])
    (hitem : ∀ x ∈ xs, ∀ rest, Ends rest → item ((text x).toList ++ rest) = some (value x, rest))
    {n : Nat} (hn : xs.length ≤ n) (rest : List Char) :
    sequence? item close n ((join ", " (xs.map text)).toList ++ close :: rest)
      = some (xs.map value, rest) := by
  induction xs generalizing n with
  | nil => exact (hxs rfl).elim
  | cons x xs ih =>
    obtain ⟨n, rfl⟩ : ∃ m, n = m + 1 := ⟨n - 1, by simp at hn; omega⟩
    cases xs with
    | nil =>
      have hends : Ends (close :: rest) := by
        rcases hclose with rfl | rfl
        · exact .inr (.inl rfl)
        · exact .inr (.inr rfl)
      rw [List.map_singleton, join, sequence?, hitem x List.mem_cons_self _ hends]
      rcases hclose with rfl | rfl
      · rfl
      · rfl
    | cons y xs =>
      have hx := hitem x List.mem_cons_self
        (',' :: ' ' :: ((join ", " ((y :: xs).map text)).toList ++ close :: rest)) (.inl rfl)
      have hrest := ih (List.cons_ne_nil y xs)
        (fun z hz => hitem z (List.mem_cons_of_mem _ hz)) (n := n) (by simpa using hn)
      have htext : (join ", " ((x :: y :: xs).map text)).toList ++ close :: rest
          = (text x).toList
            ++ ',' :: ' ' :: ((join ", " ((y :: xs).map text)).toList ++ close :: rest) := by
        simp [join]
      rw [htext, sequence?, hx]
      simp only [hrest]
      rfl

theorem group?_displays (hclosed : ∀ rest, item (')' :: rest) = none) {ts : List TypeRef}
    (hts : ∀ t ∈ ts, Reads item t) {n : Nat} (hn : ts.length ≤ n) (rest : List Char) :
    group? item n ((join ", " (TypeRef.displays ts)).toList ++ ')' :: rest)
      = some (ts.map TypeRef.shown, rest) := by
  rw [group?, TypeRef.displays_eq_map]
  cases ts with
  | nil =>
    have hnone : sequence? item ')' n (')' :: rest) = none := by
      cases n with
      | zero => rfl
      | succ n => rw [sequence?, hclosed]
    rw [List.map_nil, List.map_nil, join, String.toList_empty, List.nil_append, hnone]
    rfl
  | cons t ts =>
    rw [sequence?_join (.inl rfl) (List.cons_ne_nil t ts) hts hn]

theorem argument?_display (hstar : ∀ rest, item ('*' :: rest) = none) {a : TypeArgument}
    (ha : ∀ t, a = .type t → Reads item t) {rest : List Char} (hrest : Ends rest) :
    argument? item (a.display.toList ++ rest) = some (a.shownAs id, rest) := by
  cases a with
  | star =>
    have hdisplay : TypeArgument.star.display.toList ++ rest = '*' :: rest := rfl
    rw [hdisplay, argument?, hstar]
    rfl
  | type t =>
    rw [argument?, TypeArgument.display, ha t rfl rest hrest]
    rfl

theorem arguments?_displays (hstar : ∀ rest, item ('*' :: rest) = none)
    {as : List TypeArgument} (has : ∀ t, .type t ∈ as → Reads item t) {n : Nat}
    (hn : as.length ≤ n) {rest : List Char} (hrest : rest.head? ≠ some '<') :
    arguments? item n
      ((if (TypeArgument.displays as).isEmpty then ""
          else "<" ++ join ", " (TypeArgument.displays as) ++ ">").toList ++ rest)
      = some (TypeArgument.allShownAs id as, rest) := by
  rw [TypeArgument.displays_eq_map, TypeArgument.allShownAs_eq_map]
  cases as with
  | nil =>
    cases rest with
    | nil => rfl
    | cons c rest =>
      rw [List.map_nil, List.isEmpty_nil, if_pos rfl, String.toList_empty, List.nil_append,
        arguments?]
      · rfl
      · rintro cs hcs
        cases hcs
        exact hrest rfl
  | cons a as =>
    have htext : ("<" ++ join ", " ((a :: as).map TypeArgument.display) ++ ">").toList ++ rest
        = '<' :: ((join ", " ((a :: as).map TypeArgument.display)).toList ++ '>' :: rest) := by
      simp
    have hitem : ∀ b ∈ a :: as, ∀ rest, Ends rest →
        argument? item (b.display.toList ++ rest) = some (b.shownAs id, rest) := by
      intro b hb rest hends
      refine argument?_display hstar ?_ hends
      rintro t rfl
      exact has t hb
    rw [if_neg (by simp), htext, arguments?,
      sequence?_join (.inr rfl) (List.cons_ne_nil a as) hitem hn]

/-! ### Fronts -/

theorem isName_marks {name : String} (h : isName name = true) :
    ∀ c ∈ name.toList, isMark c = false := by
  rw [isName, Bool.and_eq_true, List.all_eq_true] at h
  intro c hc
  simpa using h.1 c hc

theorem isName_getLast? {name : String} (h : isName name = true) :
    ∃ c, name.toList.getLast? = some c ∧ c ≠ '.' := by
  rw [isName, Bool.and_eq_true, Option.any_eq_true] at h
  obtain ⟨c, hc, hdot⟩ := h.2
  exact ⟨c, hc, bne_iff_ne.mp hdot⟩

theorem isName_ne_nil {name : String} (h : isName name = true) : name.toList ≠ [] := by
  obtain ⟨c, hc, -⟩ := isName_getLast? h
  intro hnil
  rw [hnil] at hc
  cases hc

/-- What is displayed behind the name of a type, and what follows. -/
def behindName (as : List TypeArgument) (nullable : Bool) (rest : List Char) : List Char :=
  (if (TypeArgument.displays as).isEmpty then ""
      else "<" ++ join ", " (TypeArgument.displays as) ++ ">").toList
    ++ ((if nullable then "?" else "").toList ++ rest)

theorem endsName_behindName (as : List TypeArgument) (nullable : Bool) {rest : List Char}
    (hrest : FrontEnds rest) : endsName (behindName as nullable rest) = true := by
  cases as with
  | nil =>
    cases nullable with
    | true => rfl
    | false => exact hrest.endsName
  | cons a as => simp [behindName, TypeArgument.displays, endsName, isMark]

theorem head?_behindName (as : List TypeArgument) (nullable : Bool) {rest : List Char}
    (hrest : FrontEnds rest) :
    ∀ c ∈ (behindName as nullable rest).head?, c ∈ ['<', '?', ',', ')', '>', '.'] := by
  cases as with
  | nil =>
    cases nullable with
    | true => simp [behindName, TypeArgument.displays]
    | false =>
      intro c hc
      have hc := hrest.head? c hc
      simp only [List.mem_cons] at hc ⊢
      exact .inr (.inr hc)
  | cons a as => simp [behindName, TypeArgument.displays]

/-- A name is not taken for a word with a blank behind it. -/
theorem dropFront_word {word name behind : List Char} (hname : ' ' ∉ name)
    (hbehind : ∀ c ∈ behind.head?, c ∉ word ++ [' ']) :
    dropFront (word ++ [' ']) (name ++ behind) = none := by
  induction word generalizing name with
  | nil =>
    cases name with
    | nil =>
      cases behind with
      | nil => rfl
      | cons c behind =>
        refine dropFront_cons_of_ne ?_ _ _
        rintro rfl
        exact hbehind ' ' rfl List.mem_cons_self
    | cons d name =>
      refine dropFront_cons_of_ne ?_ _ _
      rintro rfl
      exact hname List.mem_cons_self
  | cons w word ih =>
    cases name with
    | nil =>
      cases behind with
      | nil => rfl
      | cons c behind =>
        refine dropFront_cons_of_ne ?_ _ _
        rintro rfl
        exact hbehind w rfl List.mem_cons_self
    | cons d name =>
      rw [List.cons_append, List.cons_append, dropFront]
      split
      · refine ih (fun h => hname (List.mem_cons_of_mem _ h)) fun c hc h => ?_
        exact hbehind c hc (List.mem_cons_of_mem _ h)
      · rfl

def IsFront (t : TypeRef) : Prop :=
  t.function = none ∨ t.nullable = true

theorem display_plain (name : String) (nullable : Bool) (as : List TypeArgument)
    (resolved typeParameter : Bool) (rest : List Char) :
    (TypeRef.mk name nullable as resolved typeParameter none).display.toList ++ rest
      = name.toList ++ behindName as nullable rest := by
  simp [TypeRef.display, displayPlain, behindName]

theorem display_nullable (name : String) (as : List TypeArgument) (resolved typeParameter : Bool)
    (f : FunctionType) (rest : List Char) :
    (TypeRef.mk name true as resolved typeParameter (some f)).display.toList ++ rest
      = '(' :: ((join ", " (TypeRef.displays
          [TypeRef.mk name false as resolved typeParameter (some f)])).toList
        ++ ')' :: '?' :: rest) := by
  obtain ⟨receiver, parameters, returnType, suspending⟩ := f
  simp [TypeRef.display, FunctionType.displayAs, displayFunction, TypeRef.displays, join]

theorem plain?_behindName (hstar : ∀ rest, item ('*' :: rest) = none) {name : String}
    (hname : isName name = true) {as : List TypeArgument}
    (has : ∀ t, .type t ∈ as → Reads item t) {n : Nat} (hn : as.length ≤ n) (nullable : Bool)
    {rest : List Char} (hrest : FrontEnds rest) :
    plain? item n (name.toList ++ behindName as nullable rest)
      = some (⟨name, nullable, TypeArgument.allShownAs id as, true, false, none⟩, rest) := by
  have htake : takeName (name.toList ++ behindName as nullable rest)
      = (name.toList, behindName as nullable rest) := by
    obtain ⟨last, hlast, hdot⟩ := isName_getLast? hname
    refine takeName_append (isName_marks hname) ?_ (endsName_behindName as nullable hrest)
    rw [hlast]
    exact fun h => hdot (Option.some.inj h)
  have harguments : arguments? item n (behindName as nullable rest)
      = some (TypeArgument.allShownAs id as,
        (if nullable = true then "?" else "").toList ++ rest) := by
    refine arguments?_displays hstar has hn ?_
    cases nullable with
    | true => simp
    | false =>
      intro h
      have hmem := hrest.head? '<' h
      revert hmem
      decide
  have hnullable : skip "?" ((if nullable = true then "?" else "").toList ++ rest)
      = (nullable, rest) := by
    cases nullable with
    | true => exact skip_append "?" rest
    | false => exact hrest.skip
  rw [plain?, htake]
  simp [isName_ne_nil hname, harguments, hnullable]

theorem front?_plain (hstar : ∀ rest, item ('*' :: rest) = none) {t : TypeRef}
    (hplain : t.function = none) (hname : isName t.qualifiedName = true)
    (hparts : ∀ u ∈ t.parts, Reads item u) {n : Nat} (hn : t.arguments.length ≤ n)
    {rest : List Char} (hrest : FrontEnds rest) :
    front? item n (t.display.toList ++ rest) = some (.inl t.shown, rest) := by
  have hargument : ∀ u, .type u ∈ t.arguments → Reads item u :=
    fun u hu => hparts u ((TypeRef.mem_parts_plain hplain).mpr hu)
  obtain ⟨name, nullable, as, resolved, typeParameter, function⟩ := t
  cases hplain
  have hread := plain?_behindName hstar hname hargument hn nullable hrest
  rw [display_plain]
  cases hchars : name.toList with
  | nil => exact (isName_ne_nil hname hchars).elim
  | cons c cs =>
    rw [hchars] at hread
    rw [List.cons_append, front?, ← List.cons_append, hread, TypeRef.shown_plain]
    · rfl
    · rintro ds hds
      cases hds
      have hc := isName_marks hname '(' (by rw [hchars]; exact List.mem_cons_self)
      cases hc

theorem front?_nullable (hclosed : ∀ rest, item (')' :: rest) = none) {t : TypeRef}
    {f : FunctionType} (hfunction : t.function = some f) (hnullable : t.nullable = true)
    (hbare : Reads item { t with nullable := false }) {n : Nat} (hn : 0 < n)
    (rest : List Char) :
    front? item n (t.display.toList ++ rest) = some (.inl t.shown, rest) := by
  obtain ⟨name, nullable, as, resolved, typeParameter, function⟩ := t
  cases hfunction
  cases hnullable
  rw [display_nullable, front?, group?_displays hclosed (by simpa using hbare) hn]
  rfl

/-- Nothing that can be a receiver begins like a suspending signature. -/
theorem skip_suspend {t : TypeRef} (hfront : IsFront t)
    (hname : t.function = none → isName t.qualifiedName = true)
    {rest : List Char} (hrest : FrontEnds rest) :
    skip "suspend " (t.display.toList ++ rest) = (false, t.display.toList ++ rest) := by
  have hnone : dropFront "suspend ".toList (t.display.toList ++ rest) = none := by
    obtain ⟨name, nullable, as, resolved, typeParameter, function⟩ := t
    cases function with
    | none =>
      rw [display_plain]
      change dropFront ("suspend".toList ++ [' ']) _ = none
      refine dropFront_word ?_ ?_
      · intro hblank
        have hmark := isName_marks (hname rfl) ' ' hblank
        cases hmark
      · intro c hc
        have hapart : (['<', '?', ',', ')', '>', '.'].all fun c =>
            !("suspend".toList ++ [' ']).contains c) = true := by
          decide
        have hother := List.all_eq_true.mp hapart c (head?_behindName as nullable hrest c hc)
        simpa using hother
    | some f =>
      rcases hfront with hplain | hnullable
      · cases hplain
      · cases hnullable
        rw [display_nullable]
        rfl
  rw [skip, hnone]

theorem skip_suspending {cs : List Char} (h : skip "suspend " cs = (false, cs))
    (suspending : Bool) :
    skip "suspend " ((if suspending then "suspend " else "").toList ++ cs) = (suspending, cs) := by
  cases suspending with
  | true => exact skip_append _ _
  | false => exact h

/-! ### Whole types -/

theorem display_signature (name : String) (as : List TypeArgument) (resolved typeParameter : Bool)
    (receiver : Option TypeRef) (parameters : List TypeRef) (returnType : TypeRef)
    (suspending : Bool) (rest : List Char) :
    (TypeRef.mk name false as resolved typeParameter
        (some ⟨receiver, parameters, returnType, suspending⟩)).display.toList ++ rest
      = (if suspending then "suspend " else "").toList
        ++ ((match receiver with
            | some r => r.display.toList ++ ['.']
            | none => [])
          ++ '(' :: ((join ", " (TypeRef.displays parameters)).toList
            ++ ')' :: (" -> ".toList ++ (returnType.display.toList ++ rest)))) := by
  cases receiver with
  | none =>
    simp [TypeRef.display, FunctionType.displayAs, displayFunction, TypeRef.displayOption]
  | some r =>
    simp [TypeRef.display, FunctionType.displayAs, displayFunction, TypeRef.displayOption]

theorem result?_display (suspending : Bool) (receiver : Option TypeRef)
    (parameters : List TypeRef) {returnType : TypeRef} (hresult : Reads item returnType)
    {rest : List Char} (hrest : Ends rest) :
    result? item suspending receiver parameters
        (" -> ".toList ++ (returnType.display.toList ++ rest))
      = some (.ofSignature false ⟨receiver, parameters, returnType.shown, suspending⟩, rest) := by
  rw [result?, dropFront_self]
  simp [hresult rest hrest]

theorem front?_parameters {parameters : List TypeRef} {cs rest : List Char} {n : Nat}
    (hgroup : group? item n cs = some (parameters, " -> ".toList ++ rest)) :
    front? item n ('(' :: cs) = some (.inr parameters, " -> ".toList ++ rest) := by
  rw [front?, hgroup]
  rcases parameters with _ | ⟨p, _ | ⟨q, parameters⟩⟩
  · rfl
  · rfl
  · rfl

/-- A signature is read by reading its receiver as a front and its other types as items. -/
theorem typeFrom_signature (hclosed : ∀ rest, item (')' :: rest) = none) {n : Nat}
    {name : String} {as : List TypeArgument} {resolved typeParameter : Bool}
    {receiver : Option TypeRef} {parameters : List TypeRef} {returnType : TypeRef}
    {suspending : Bool}
    (hreceiver : ∀ r, receiver = some r → IsFront r
      ∧ (r.function = none → isName r.qualifiedName = true)
      ∧ ∀ rest, FrontEnds rest →
        front? item n (r.display.toList ++ rest) = some (.inl r.shown, rest))
    (hparameters : ∀ p ∈ parameters, Reads item p) (hn : parameters.length ≤ n)
    (hresult : Reads item returnType) :
    Reads (typeFrom item n) ⟨name, false, as, resolved, typeParameter,
      some ⟨receiver, parameters, returnType, suspending⟩⟩ := by
  intro rest hrest
  have hgroup := group?_displays hclosed hparameters hn
    (" -> ".toList ++ (returnType.display.toList ++ rest))
  rw [display_signature, TypeRef.shown_signature]
  cases receiver with
  | none =>
    have honce : ∀ cs, skip "suspend " ('(' :: cs) = (false, '(' :: cs) := fun _ => rfl
    rw [List.nil_append, typeFrom, skip_suspending (honce _)]
    simp only [honce, Bool.and_false, Bool.false_eq_true, if_false, front?_parameters hgroup]
    exact result?_display suspending none _ hresult hrest
  | some r =>
    obtain ⟨hfront, hname, hread⟩ := hreceiver r rfl
    simp only [List.append_assoc, List.singleton_append]
    have honce := fun cs => skip_suspend hfront hname (.inr ⟨cs, rfl⟩)
    rw [typeFrom, skip_suspending (honce _)]
    simp only [honce, Bool.and_false, Bool.false_eq_true, if_false, hread _ (.inr ⟨_, rfl⟩), hgroup]
    exact result?_display suspending (some r.shown) _ hresult hrest

/-- Behind the first of two words stands the receiver with the arrow put behind it. -/
theorem display_outer (name : String) (as : List TypeArgument) (resolved typeParameter : Bool)
    (r : TypeRef) (parameters : List TypeRef) (returnType : TypeRef) :
    (TypeRef.mk name false as resolved typeParameter
        (some ⟨some r, parameters, returnType, true⟩)).display
      = "suspend " ++ (attach parameters returnType r).display := by
  rw [display_attach, Arrow.display_type, ← String.toList_inj]
  simp [TypeRef.display, FunctionType.displayAs, TypeRef.displayOption, displayFunction]

theorem skip_attach {r : TypeRef} {g : FunctionType} (hg : r.function = some g)
    (hbare : r.nullable = false) (hsuspending : g.suspending = true) (parameters : List TypeRef)
    (returnType : TypeRef) (rest : List Char) :
    (skip "suspend " ((attach parameters returnType r).display.toList ++ rest)).1 = true := by
  obtain ⟨name, nullable, as, resolved, typeParameter, function⟩ := r
  obtain ⟨receiver, ps, result, suspending⟩ := g
  cases hg
  cases hbare
  cases hsuspending
  rw [attach, display_signature, if_pos rfl, skip_append]

theorem typeFrom_outer {r : TypeRef} {g : FunctionType} (hg : r.function = some g)
    (hbare : r.nullable = false) (hsuspending : g.suspending = true) (hsplit : split r = none)
    {parameters : List TypeRef} {returnType : TypeRef}
    (hread : Reads item (attach parameters returnType r)) (n : Nat) (name : String)
    (as : List TypeArgument) (resolved typeParameter : Bool) :
    Reads (typeFrom item n) ⟨name, false, as, resolved, typeParameter,
      some ⟨some r, parameters, returnType, true⟩⟩ := by
  intro rest hrest
  have hcut : split (attach parameters returnType r).shown
      = some (Arrow.shownAs id ⟨r, parameters, returnType⟩) := by
    rw [TypeRef.shown, split_shownAs, split_attach hsplit, Option.map_some]
  rw [display_outer, String.toList_append, List.append_assoc, typeFrom, skip_append]
  simp only [skip_attach hg hbare hsuspending, Bool.and_self, if_true, outer?, hread rest hrest,
    Option.bind_eq_bind, Option.bind_some, hcut, TypeRef.shown_signature, Arrow.shownAs,
    TypeRef.allShownAs_eq_map]
  rfl

theorem typeFrom_front {t : TypeRef} (hfront : IsFront t)
    (hname : t.function = none → isName t.qualifiedName = true)
    {n : Nat} (hread : ∀ rest, FrontEnds rest →
      front? item n (t.display.toList ++ rest) = some (.inl t.shown, rest)) :
    Reads (typeFrom item n) t := by
  intro rest hrest
  rw [typeFrom, skip_suspend hfront hname (.inl hrest)]
  simp only [Bool.false_and, Bool.false_eq_true, if_false, hread rest (.inl hrest)]
  cases rest with
  | nil => rfl
  | cons c rest =>
    rcases hrest with rfl | rfl | rfl
    · rfl
    · rfl
    · rfl

end Lists

/-! ### Depth -/

/-- How deep a type is read: every type is read by reading shorter texts. -/
def depth (t : TypeRef) : Nat :=
  t.display.toList.length

theorem length_le_of_mem {text : String} {texts : List String} (h : text ∈ texts) :
    text.toList.length ≤ (join ", " texts).toList.length := by
  induction texts with
  | nil => cases h
  | cons front texts ih =>
    cases texts with
    | nil =>
      cases List.mem_singleton.mp h
      exact Nat.le_refl _
    | cons next texts =>
      rw [join_cons _ _ (List.cons_ne_nil next texts)]
      simp only [String.toList_append, List.length_append]
      rcases List.mem_cons.mp h with rfl | h
      · omega
      · exact Nat.le_add_left_of_le (ih h)

theorem length_le_join (texts : List String) :
    texts.length ≤ (join ", " texts).toList.length + 1 := by
  induction texts with
  | nil => exact Nat.zero_le _
  | cons front texts ih =>
    cases texts with
    | nil => exact Nat.le_add_left _ _
    | cons next texts =>
      have hcomma : ", ".toList.length = 2 := rfl
      rw [join_cons _ _ (List.cons_ne_nil next texts)]
      simp only [String.toList_append, List.length_append, List.length_cons] at ih ⊢
      omega

theorem depth_plain_lt (name : String) (nullable : Bool) {as : List TypeArgument} (has : as ≠ [])
    (resolved typeParameter : Bool) :
    (join ", " (as.map TypeArgument.display)).toList.length + 1
      < depth ⟨name, nullable, as, resolved, typeParameter, none⟩ := by
  have hopen : "<".toList.length = 1 := rfl
  have hclose : ">".toList.length = 1 := rfl
  have hsome : ¬ (as.map TypeArgument.display).isEmpty = true := by simpa using has
  rw [depth, TypeRef.display, displayPlain, TypeArgument.displays_eq_map, if_neg hsome]
  simp only [String.toList_append, List.length_append]
  omega

theorem depth_signature (name : String) (as : List TypeArgument) (resolved typeParameter : Bool)
    (receiver : Option TypeRef) (parameters : List TypeRef) (returnType : TypeRef)
    (suspending : Bool) :
    depth ⟨name, false, as, resolved, typeParameter,
        some ⟨receiver, parameters, returnType, suspending⟩⟩
      = (if suspending then 8 else 0) + (receiver.elim 0 fun r => depth r + 1)
        + (join ", " (parameters.map TypeRef.display)).toList.length + 6 + depth returnType := by
  have hlength := congrArg List.length
    (display_signature name as resolved typeParameter receiver parameters returnType suspending [])
  have hword : (if suspending then "suspend " else "").toList.length
      = if suspending then 8 else 0 := by
    cases suspending with
    | true => rfl
    | false => rfl
  have hreceiver : (match receiver with
      | some r => r.display.toList ++ ['.']
      | none => []).length = receiver.elim 0 fun r => depth r + 1 := by
    cases receiver with
    | none => rfl
    | some r => exact List.length_append
  have harrow : " -> ".toList.length = 4 := rfl
  have hresult : returnType.display.toList.length = depth returnType := rfl
  simp only [List.length_append, List.length_cons, List.length_nil, TypeRef.displays_eq_map, hword,
    hreceiver, harrow, hresult] at hlength
  rw [depth]
  omega

theorem depth_bare (t : TypeRef) :
    depth { t with nullable := false } + t.nullable.toNat ≤ depth t := by
  obtain ⟨name, nullable, as, resolved, typeParameter, function⟩ := t
  cases nullable with
  | false => exact Nat.le_refl _
  | true =>
    cases function with
    | none =>
      have hmark : "?".toList.length = 1 := rfl
      have hnothing : "".toList.length = 0 := rfl
      simp only [depth, TypeRef.display, displayPlain, String.toList_append, List.length_append,
        Bool.false_eq_true, if_false, if_true, Bool.toNat_true]
      omega
    | some f =>
      have hlength := congrArg List.length (display_nullable name as resolved typeParameter f [])
      simp only [TypeRef.displays, join, List.length_append, List.length_cons, List.length_nil]
        at hlength
      change (TypeRef.mk name false as resolved typeParameter (some f)).display.toList.length + 1
        ≤ (TypeRef.mk name true as resolved typeParameter (some f)).display.toList.length
      omega

theorem depth_lt_of_mem_parts {t u : TypeRef} (h : u ∈ t.parts) : depth u < depth t := by
  have hbare := depth_bare t
  obtain ⟨name, nullable, as, resolved, typeParameter, function⟩ := t
  cases function with
  | none =>
    have hargument : .type u ∈ as := (TypeRef.mem_parts_plain rfl).mp h
    have hle := length_le_of_mem (List.mem_map_of_mem (f := TypeArgument.display) hargument)
    have hlt := depth_plain_lt name nullable (List.ne_nil_of_mem hargument) resolved typeParameter
    exact Nat.lt_of_le_of_lt hle (Nat.lt_of_succ_lt hlt)
  | some f =>
    obtain ⟨receiver, parameters, returnType, suspending⟩ := f
    rw [depth_signature] at hbare
    simp only [TypeRef.parts, List.mem_append, List.mem_singleton, Option.mem_toList] at h
    rcases h with (rfl | hparameter) | rfl
    · simp only [Option.elim_some] at hbare
      omega
    · have hle := length_le_of_mem (List.mem_map_of_mem (f := TypeRef.display) hparameter)
      change depth u ≤ _ at hle
      omega
    · omega

theorem length_arguments_le {t : TypeRef} (h : t.function = none) :
    t.arguments.length ≤ depth t := by
  obtain ⟨name, nullable, as, resolved, typeParameter, function⟩ := t
  cases h
  by_cases has : as = []
  · cases has
    exact Nat.zero_le _
  · have hle := length_le_join (as.map TypeArgument.display)
    have hlt := depth_plain_lt name nullable has resolved typeParameter
    rw [List.length_map] at hle
    exact Nat.le_of_lt (Nat.lt_of_le_of_lt hle hlt)

theorem length_parameters_le {t : TypeRef} {f : FunctionType} (h : t.function = some f) :
    f.parameters.length ≤ depth t := by
  have hbare := depth_bare t
  obtain ⟨name, nullable, as, resolved, typeParameter, function⟩ := t
  obtain ⟨receiver, parameters, returnType, suspending⟩ := f
  cases h
  have hle := length_le_join (parameters.map TypeRef.display)
  rw [depth_signature] at hbare
  rw [List.length_map] at hle
  change parameters.length ≤ _
  omega

/-! ### Legible types -/

theorem readable_iff {t : TypeRef} : Readable t ↔ Legible t ∧ ∀ u ∈ t.parts, Readable u := by
  constructor
  · exact fun ht => ⟨ht t (.self t), fun u hu n hn => ht n (.part hu hn)⟩
  · rintro ⟨hself, hparts⟩ n hn
    cases hn with
    | self => exact hself
    | part hu hn => exact hparts _ hu n hn

theorem Readable.bare {t : TypeRef} (ht : Readable t) : Readable { t with nullable := false } := by
  obtain ⟨hself, hparts⟩ := readable_iff.mp ht
  exact readable_iff.mpr ⟨⟨hself.name, hself.receiver⟩, hparts⟩

theorem closesReceiver_shownAs (form : String → String) (t : TypeRef) :
    closesReceiver (t.shownAs form) = closesReceiver t := by
  obtain ⟨name, nullable, as, resolved, typeParameter, function⟩ := t
  rcases function with _ | ⟨_ | r, parameters, returnType, suspending⟩
  · rfl
  · rfl
  · have hsplit := congrArg Option.isNone (split_shownAs form r)
    rw [Option.isNone_map] at hsplit
    obtain ⟨name', nullable', as', resolved', typeParameter', function'⟩ := r
    rcases function' with _ | ⟨receiver', parameters', returnType', suspending'⟩
    · rfl
    · simp only [closesReceiver, TypeRef.shownAs, TypeRef.ofSignature, FunctionType.shownAs,
        TypeRef.optionShownAs, Option.all_some, Option.any_some, Option.isNone_some] at hsplit ⊢
      rw [hsplit]

/-- What a legible signature has in front of its arrow. -/
theorem Legible.receiver_cases {name : String} {nullable : Bool} {as : List TypeArgument}
    {resolved typeParameter : Bool} {r : TypeRef} {parameters : List TypeRef}
    {returnType : TypeRef} {suspending : Bool}
    (ht : Legible ⟨name, nullable, as, resolved, typeParameter,
      some ⟨some r, parameters, returnType, suspending⟩⟩) :
    IsFront r ∨ ∃ g, r.function = some g ∧ r.nullable = false ∧ g.suspending = true
      ∧ suspending = true ∧ split r = none := by
  have hcloses := ht.receiver
  simp only [closesReceiver, Option.all_some, Bool.or_eq_true, Bool.and_eq_true,
    Option.isNone_iff_eq_none, Option.any_eq_true] at hcloses
  rcases hcloses with hfront | ⟨⟨hsuspending, g, hg, hg'⟩, hsplit⟩
  · exact .inl hfront
  · cases hnullable : r.nullable with
    | true => exact .inl (.inr hnullable)
    | false => exact .inr ⟨g, hg, rfl, hg', hsuspending, hsplit⟩

theorem Readable.attach {r : TypeRef} {parameters : List TypeRef} {returnType : TypeRef}
    (hr : Readable r) (hparameters : ∀ p ∈ parameters, Readable p)
    (hresult : Readable returnType) : Readable (attach parameters returnType r) := by
  fun_induction Display.attach parameters returnType r with
  | case1 name as resolved typeParameter receiver ps result suspending ih =>
    obtain ⟨hself, hparts⟩ := readable_iff.mp hr
    rw [TypeRef.parts, List.forall_mem_append, List.forall_mem_singleton] at hparts
    refine readable_iff.mpr ⟨⟨by rintro ⟨⟩, hself.receiver⟩, ?_⟩
    rw [TypeRef.parts, List.forall_mem_append, List.forall_mem_singleton]
    exact ⟨hparts.1, ih hparts.2⟩
  | case2 t hother =>
    have hcloses : closesReceiver (Arrow.type ⟨t, parameters, returnType⟩) = true := by
      obtain ⟨name, nullable, as, resolved, typeParameter, function⟩ := t
      cases function with
      | none => rfl
      | some f =>
        obtain ⟨receiver, ps, result, suspending⟩ := f
        cases nullable with
        | true => rfl
        | false => exact (hother name as resolved typeParameter _ _ _ _ rfl).elim
    refine readable_iff.mpr ⟨⟨by rintro ⟨⟩, hcloses⟩, ?_⟩
    exact List.forall_mem_cons.mpr ⟨hr, List.forall_mem_append.mpr
      ⟨hparameters, List.forall_mem_singleton.mpr hresult⟩⟩

theorem type?_closed (n : Nat) (rest : List Char) : type? n (')' :: rest) = none := by
  cases n with
  | zero => rfl
  | succ n => rfl

theorem type?_star (n : Nat) (rest : List Char) : type? n ('*' :: rest) = none := by
  cases n with
  | zero => rfl
  | succ n => rfl

/-! ### Reading back -/

/-- Every readable type that is less deep is read back. -/
def ReadsBelow (n : Nat) : Prop :=
  ∀ t : TypeRef, depth t < n → Readable t → Reads (type? n) t

section Step

variable {n : Nat} {t : TypeRef}

theorem ReadsBelow.parts (hread : ReadsBelow n) (hdepth : depth t ≤ n) (ht : Readable t) :
    ∀ u ∈ t.parts, Reads (type? n) u := fun u hu =>
  hread u (Nat.lt_of_lt_of_le (depth_lt_of_mem_parts hu) hdepth) ((readable_iff.mp ht).2 u hu)

theorem ReadsBelow.front (hread : ReadsBelow n) (hdepth : depth t ≤ n) (ht : Readable t)
    (hfront : IsFront t) {rest : List Char} (hrest : FrontEnds rest) :
    front? (type? n) n (t.display.toList ++ rest) = some (.inl t.shown, rest) := by
  cases hfunction : t.function with
  | none =>
    have harguments := Nat.le_trans (length_arguments_le hfunction) hdepth
    exact front?_plain (type?_star n) hfunction ((readable_iff.mp ht).1.name hfunction)
      (hread.parts hdepth ht) harguments hrest
  | some f =>
    have hnullable : t.nullable = true := hfront.resolve_left (by rw [hfunction]; simp)
    have hlt : depth { t with nullable := false } < n := by
      have hbare := depth_bare t
      rw [hnullable, Bool.toNat_true] at hbare
      omega
    exact front?_nullable (type?_closed n) hfunction hnullable (hread _ hlt ht.bare)
      (Nat.zero_lt_of_lt hlt) rest

/-- Behind the first of two words stands a shorter text, with the arrow of the whole put
    behind the receiver. -/
theorem ReadsBelow.outer (hread : ReadsBelow n) {name : String} {as : List TypeArgument}
    {resolved typeParameter : Bool} {r : TypeRef} {parameters : List TypeRef}
    {returnType : TypeRef}
    (hdepth : depth ⟨name, false, as, resolved, typeParameter,
      some ⟨some r, parameters, returnType, true⟩⟩ ≤ n)
    (ht : Readable ⟨name, false, as, resolved, typeParameter,
      some ⟨some r, parameters, returnType, true⟩⟩) :
    Reads (type? n) (attach parameters returnType r) := by
  have hparts := (readable_iff.mp ht).2
  rw [TypeRef.parts, List.forall_mem_append, List.forall_mem_append, List.forall_mem_singleton]
    at hparts
  refine hread _ ?_ (.attach (hparts.1.1 r List.mem_cons_self) hparts.1.2 hparts.2)
  have hword : "suspend ".toList.length = 8 := rfl
  rw [depth, display_outer, String.toList_append, List.length_append] at hdepth
  rw [depth]
  omega

/-- One level more is read: a front as such, two words by what stands behind the first, and
    any other signature by its parts. -/
theorem ReadsBelow.typeFrom (hread : ReadsBelow n) (hdepth : depth t ≤ n) (ht : Readable t) :
    Reads (typeFrom (type? n) n) t := by
  obtain ⟨hself, hreadable⟩ := readable_iff.mp ht
  by_cases hfront : IsFront t
  · exact typeFrom_front hfront hself.name fun rest => hread.front hdepth ht hfront
  · have hparts := hread.parts hdepth ht
    obtain ⟨name, nullable, as, resolved, typeParameter, function⟩ := t
    cases function with
    | none => exact (hfront (.inl rfl)).elim
    | some f =>
      cases nullable with
      | true => exact (hfront (.inr rfl)).elim
      | false =>
        have hlength := Nat.le_trans (length_parameters_le rfl) hdepth
        obtain ⟨receiver, parameters, returnType, suspending⟩ := f
        rw [TypeRef.parts, List.forall_mem_append, List.forall_mem_append,
          List.forall_mem_singleton] at hparts
        obtain ⟨⟨-, hparameters⟩, hresult⟩ := hparts
        cases receiver with
        | none =>
          exact typeFrom_signature (type?_closed n) (by rintro _ ⟨⟩) hparameters hlength hresult
        | some r =>
          rcases hself.receiver_cases with hfront | ⟨g, hg, hbare, hsuspends, rfl, hsplit⟩
          · -- a dot follows the receiver and no end, so it is read as a front
            have hr := hreadable r List.mem_cons_self
            have hlt := Nat.lt_of_lt_of_le (depth_lt_of_mem_parts List.mem_cons_self) hdepth
            refine typeFrom_signature (type?_closed n) ?_ hparameters hlength hresult
            rintro _ ⟨⟩
            exact ⟨hfront, (readable_iff.mp hr).1.name,
              fun rest => hread.front (Nat.le_of_lt hlt) hr hfront⟩
          · exact typeFrom_outer hg hbare hsuspends hsplit (hread.outer hdepth ht) n name as
              resolved typeParameter

end Step

theorem readsBelow (n : Nat) : ReadsBelow n := by
  induction n with
  | zero => exact fun t hdepth _ => (Nat.not_lt_zero _ hdepth).elim
  | succ n ih => exact fun t hdepth ht => ih.typeFrom (Nat.le_of_lt_succ hdepth) ht

/-- A display shows one readable type only. -/
theorem shown_of_display {t u : TypeRef} (ht : Readable t) (hu : Readable u)
    (h : t.display = u.display) : t.shown = u.shown := by
  have hlt : depth t < depth t + depth u + 1 := by omega
  have hlt' : depth u < depth t + depth u + 1 := by omega
  have hread := readsBelow _ t hlt ht [] True.intro
  have hread' := readsBelow _ u hlt' hu [] True.intro
  rw [h, hread'] at hread
  exact (Prod.mk.inj (Option.some.inj hread)).1.symm

example : (type? 4 "suspend (a.B<*, c>?, (() -> d)?) -> e".toList).map Prod.snd = some [] := by
  decide

end ClientGen.Display
