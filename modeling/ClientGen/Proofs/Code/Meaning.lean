/-
  ClientGen/Proofs/Code/Meaning.lean
  ==================================
  **What guards and loops mean.**

  Written code is text, so its meaning starts with reading it: an expression is a name with
  links behind it, each with a plain or a safe dot (`Chain.read`), and a block whose opening
  ends in `let` or `forEach` runs its body on what stands in front (`Guard.read`).  A plain
  dot behind a null is a fault, as is a name that nothing is bound to and a member that a
  value does not have.  Every other statement is an act: a run is the list of its acts with
  the names in scope at each, or the fault that it ends with.
-/
import ClientGen.Code.Syntax
import ClientGen.Proofs.Text.Pieces

namespace ClientGen.Code

open ClientGen.Text

/-! ### Data -/

/-- A value at run time, as far as guards and loops tell values apart. -/
inductive Datum where
  | null
  | text (s : String)
  /-- A collection or an array. -/
  | elements (ds : List Datum)
  /-- A map by its entries. -/
  | map (es : List Datum)
  | entry (key value : Datum)
  | pair (first second : Datum)
  /-- Any other object. -/
  | object (name : String)
deriving Repr, Inhabited

def Datum.isNull : Datum → Bool
  | .null => true
  | _ => false

@[simp] theorem Datum.isNull_iff {d : Datum} : d.isNull = true ↔ d = .null := by
  cases d <;> simp [isNull]

/-- Why code ends before it is done. -/
inductive Fault where
  | unknownName
  | nullReceiver
  | noMember
deriving DecidableEq, Repr

abbrev Scope : Type := String → Option Datum

def Scope.bind (scope : Scope) (name : String) (d : Datum) : Scope :=
  fun x => if x = name then some d else scope x

section Bind

variable (scope : Scope) (name : String) (d : Datum)

@[simp] theorem Scope.bind_self : scope.bind name d name = some d := if_pos rfl

@[simp] theorem Scope.bind_of_ne {x : String} (h : x ≠ name) : scope.bind name d x = scope x :=
  if_neg h

end Bind

/-! ### Expressions -/

/-- A member behind a dot, which may be safe. -/
structure Link where
  safe : Bool
  member : String
deriving DecidableEq, Repr

/-- A name with members behind it. -/
structure Chain where
  head : String
  links : List Link
deriving DecidableEq, Repr

/-- A piece between dots without the mark at its end, and whether the next dot is safe. -/
def readPiece (cs : List Char) : String × Bool :=
  if cs.getLast? = some '?' then (String.ofList cs.dropLast, true) else (String.ofList cs, false)

/-- The links behind a dot that is safe or not. -/
def linksOf (safe : Bool) : List (String × Bool) → List Link
  | [] => []
  | (member, next) :: rest => ⟨safe, member⟩ :: linksOf next rest

/-- The links that stand in a text behind a dot. -/
def readLinks (safe : Bool) (code : String) : List Link :=
  linksOf safe ((pieces '.' code.toList).map readPiece)

def Chain.read (code : String) : Chain :=
  match (pieces '.' code.toList).map readPiece with
  | [] => ⟨"", []⟩
  | (head, safe) :: rest => ⟨head, linksOf safe rest⟩

/-- The member of a value that is not null. -/
def Datum.member (name : String) (d : Datum) : Except Fault Datum :=
  match d with
  | .elements ds =>
    if name = "filterNotNull()" then .ok (.elements (ds.filter fun d => !d.isNull))
    else .error .noMember
  | .entry key value =>
    if name = "key" then .ok key else if name = "value" then .ok value else .error .noMember
  | .pair first second =>
    if name = "first" then .ok first
    else if name = "second" then .ok second
    else .error .noMember
  | _ => .error .noMember

/-- Follow a link; a safe one passes a null on. -/
def Link.follow (d : Datum) (l : Link) : Except Fault Datum :=
  if d.isNull then if l.safe then .ok .null else .error .nullReceiver else d.member l.member

def Chain.evaluate (c : Chain) (scope : Scope) : Except Fault Datum :=
  match scope c.head with
  | none => .error .unknownName
  | some d => c.links.foldlM Link.follow d

def evaluate (code : String) (scope : Scope) : Except Fault Datum :=
  (Chain.read code).evaluate scope

/-! ### Guards and loops -/

/-- How a body is run: once, with the value, or once for every element. -/
inductive Runner where
  | once
  | each
deriving DecidableEq, Repr

/-- The runner that a member is. -/
def Runner.ofMember? (member : String) : Option Runner :=
  if member = "let" then some .once else if member = "forEach" then some .each else none

/-- What a block runs its body on. -/
structure Guard where
  source : Chain
  safe : Bool
  runner : Runner
deriving DecidableEq, Repr

/-- The guard or loop that a chain is, by its last member. -/
def Guard.ofChain (c : Chain) : Option Guard :=
  match c.links.getLast? with
  | none => none
  | some last => (Runner.ofMember? last.member).map fun runner =>
      ⟨{ c with links := c.links.dropLast }, last.safe, runner⟩

/-- The guard or loop that the opening of a block is. -/
def Guard.read (opening : String) : Option Guard :=
  Guard.ofChain (Chain.read opening)

/-- The guard or loop that a block is, when nothing more belongs to it. -/
def guardOf (opening : String) (branches : List Branch) (closing : String) : Option Guard :=
  if branches.isEmpty && closing == "" then Guard.read opening else none

theorem guardOf_plain (opening : String) : guardOf opening [] "" = Guard.read opening := rfl

/-- What a runner gives its body.  Anything has a `let`, also a null. -/
def Runner.data (safe : Bool) : Runner → Datum → Except Fault (List Datum)
  | .once, d => if d.isNull && safe then .ok [] else .ok [d]
  | .each, .null => if safe then .ok [] else .error .nullReceiver
  | .each, .elements ds => .ok ds
  | .each, .map es => .ok es
  | .each, _ => .error .noMember

def Guard.data (g : Guard) (scope : Scope) : Except Fault (List Datum) :=
  g.source.evaluate scope >>= g.runner.data g.safe

/-! ### Runs -/

/-- A statement that is done, with the names in scope. -/
structure Act where
  scope : Scope
  statement : Statement

/-- What is done, or the fault that ends it. -/
abbrev Run : Type := Except Fault (List Act)

/-- One run after the other. -/
def inTurn {α : Type} (run : α → Run) : List α → Run
  | [] => .ok []
  | a :: as => do
    let first ← run a
    let rest ← inTurn run as
    return first ++ rest

mutual
def runStatement : Statement → Scope → Run
  | .block b, scope => runBlock b scope
  | s, scope => .ok [⟨scope, s⟩]

/-- Run a block; one that is no guard and no loop is an act with all that it holds. -/
def runBlock : Block → Scope → Run
  | ⟨opening, parameters, body, branches, closing⟩, scope =>
    match guardOf opening branches closing with
    | some g => do
      let data ← g.data scope
      inTurn (fun d => runStatements body (scope.bind (parameters.getD "it") d)) data
    | none => .ok [⟨scope, .block ⟨opening, parameters, body, branches, closing⟩⟩]

def runStatements : List Statement → Scope → Run
  | [], _ => .ok []
  | s :: ss, scope => do
    let first ← runStatement s scope
    let rest ← runStatements ss scope
    return first ++ rest
end

/-! ### Rules -/

theorem runStatements_singleton (s : Statement) (scope : Scope) :
    runStatements [s] scope = runStatement s scope := by
  simp only [runStatements]
  cases runStatement s scope with
  | error fault => rfl
  | ok acts => exact congrArg Except.ok (List.append_nil acts)

section Guards

variable {opening : String} {g : Guard} {scope : Scope}

/-- A guard or loop with nothing behind it runs its body on its data. -/
theorem runStatement_guard {data : List Datum} (hread : Guard.read opening = some g)
    (hdata : g.data scope = .ok data) (parameters : Option String) (s : Statement) :
    runStatement (.block ⟨opening, parameters, [s], [], ""⟩) scope
      = inTurn (fun d => runStatement s (scope.bind (parameters.getD "it") d)) data := by
  simp only [runStatement, runBlock, guardOf_plain, hread, hdata, runStatements_singleton]
  rfl

theorem runStatement_guard_error {fault : Fault} (hread : Guard.read opening = some g)
    (hdata : g.data scope = .error fault) (parameters : Option String) (s : Statement) :
    runStatement (.block ⟨opening, parameters, [s], [], ""⟩) scope = .error fault := by
  simp only [runStatement, runBlock, guardOf_plain, hread, hdata]
  rfl

end Guards

section InTurn

variable {α β : Type} (run : α → Run)

theorem inTurn_nil : inTurn run [] = .ok [] := rfl

theorem inTurn_cons (a : α) (as : List α) :
    inTurn run (a :: as) = (do
      let first ← run a
      let rest ← inTurn run as
      return first ++ rest) := rfl

theorem inTurn_singleton (a : α) : inTurn run [a] = run a := by
  rw [inTurn_cons, inTurn_nil]
  cases run a with
  | error fault => rfl
  | ok acts => exact congrArg Except.ok (List.append_nil acts)

theorem inTurn_map (f : β → α) (bs : List β) :
    inTurn run (bs.map f) = inTurn (fun b => run (f b)) bs := by
  induction bs with
  | nil => rfl
  | cons b bs ih => rw [List.map_cons, inTurn_cons, ih, inTurn_cons]

theorem inTurn_append (as as' : List α) :
    inTurn run (as ++ as') = (do
      let first ← inTurn run as
      let rest ← inTurn run as'
      return first ++ rest) := by
  induction as with
  | nil =>
    rw [List.nil_append, inTurn_nil]
    cases inTurn run as' <;> rfl
  | cons a as ih =>
    rw [List.cons_append, inTurn_cons, ih, inTurn_cons]
    cases run a with
    | error fault => rfl
    | ok acts =>
      cases inTurn run as with
      | error fault => rfl
      | ok rest =>
        cases inTurn run as' with
        | error fault => rfl
        | ok last => exact congrArg Except.ok (List.append_assoc acts rest last).symm

theorem inTurn_acts (act : α → Act) (as : List α) :
    inTurn (fun a => .ok [act a]) as = .ok (as.map act) := by
  induction as with
  | nil => rfl
  | cons a as ih =>
    rw [inTurn_cons, ih]
    rfl

/-- One fault among many runs ends them all. -/
theorem inTurn_error {a : α} {as : List α} {fault : Fault} (ha : a ∈ as)
    (h : run a = .error fault) : ∃ fault', inTurn run as = .error fault' := by
  induction as with
  | nil => cases ha
  | cons b bs ih =>
    rw [inTurn_cons]
    cases hfirst : run b with
    | error fault' => exact ⟨fault', rfl⟩
    | ok acts =>
      rcases List.mem_cons.mp ha with rfl | ha
      · rw [h] at hfirst
        cases hfirst
      · obtain ⟨fault', hrest⟩ := ih ha
        rw [hrest]
        exact ⟨fault', rfl⟩

end InTurn

/-! ### Names -/

/-- The text is read as one name. -/
def IsOperand (name : String) : Prop :=
  '.' ∉ name.toList ∧ name.toList.getLast? ≠ some '?'

instance (name : String) : Decidable (IsOperand name) :=
  inferInstanceAs (Decidable (_ ∧ _))

section Operands

variable {name : String}

theorem readPiece_operand (h : IsOperand name) : readPiece name.toList = (name, false) := by
  unfold readPiece
  rw [if_neg h.2, String.ofList_toList]

theorem readPiece_safe (cs : List Char) : readPiece (cs ++ ['?']) = (String.ofList cs, true) := by
  unfold readPiece
  rw [if_pos (by simp), List.dropLast_concat]

theorem Chain.read_operand (h : IsOperand name) : Chain.read name = ⟨name, []⟩ := by
  unfold Chain.read
  rw [pieces_of_not_mem h.1, List.map_singleton, readPiece_operand h]
  rfl

theorem Chain.read_link (h : IsOperand name) (rest : String) :
    Chain.read (name ++ ("." ++ rest)) = ⟨name, readLinks false rest⟩ := by
  have hpieces : pieces '.' (name ++ ("." ++ rest)).toList
      = name.toList :: pieces '.' rest.toList := by
    rw [String.toList_append, String.toList_append]
    exact pieces_append_of_not_mem h.1 rest.toList
  unfold Chain.read
  rw [hpieces, List.map_cons, readPiece_operand h]
  rfl

theorem Chain.read_safeLink (h : IsOperand name) (rest : String) :
    Chain.read (name ++ ("?." ++ rest)) = ⟨name, readLinks true rest⟩ := by
  have hmark : '.' ∉ name.toList ++ ['?'] := by
    simp [h.1]
  have hpieces : pieces '.' (name ++ ("?." ++ rest)).toList
      = (name.toList ++ ['?']) :: pieces '.' rest.toList := by
    have hcut := pieces_append_of_not_mem hmark rest.toList
    rw [List.append_assoc] at hcut
    rw [String.toList_append, String.toList_append]
    exact hcut
  unfold Chain.read
  rw [hpieces, List.map_cons, readPiece_safe, String.ofList_toList]
  rfl

/-- What runs a block behind a plain dot. -/
theorem Guard.read_link (h : IsOperand name) {runner rest : String} (hrunner : runner = "." ++ rest) :
    Guard.read (name ++ runner) = Guard.ofChain ⟨name, readLinks false rest⟩ := by
  rw [Guard.read, hrunner, Chain.read_link h]

/-- What runs a block behind a safe dot. -/
theorem Guard.read_safeLink (h : IsOperand name) {runner rest : String}
    (hrunner : runner = "?." ++ rest) :
    Guard.read (name ++ runner) = Guard.ofChain ⟨name, readLinks true rest⟩ := by
  rw [Guard.read, hrunner, Chain.read_safeLink h]

theorem evaluate_operand (h : IsOperand name) {scope : Scope} {d : Datum}
    (hbound : scope name = some d) : evaluate name scope = .ok d := by
  unfold evaluate Chain.evaluate
  rw [Chain.read_operand h, hbound]
  rfl

end Operands

end ClientGen.Code
