/-
  ClientGen/Proofs/Code/Nesting.lean
  ==================================
  **Where statements stand.**

  `Occurs ss around s` says that `s` stands somewhere in the statements `ss`, inside the
  blocks `around`, the outermost first; the further parts of a block belong to it.  What a
  coroutine has to know of a statement is whether it executes a request, asks for the
  running coroutine, passes a value on in a stream, or catches failures.
-/
import ClientGen.Code.Syntax

namespace ClientGen.Code

/-! ### Nesting -/

/-- The statement stands in a body, inside these blocks. -/
inductive Occurs : List Statement → List Block → Statement → Prop
  | here {ss : List Statement} {s : Statement} (hs : s ∈ ss) : Occurs ss [] s
  | body {ss : List Statement} {b : Block} {around : List Block} {s : Statement}
      (hb : .block b ∈ ss) (inside : Occurs b.body around s) : Occurs ss (b :: around) s
  | branch {ss : List Statement} {b : Block} {part : Branch} {around : List Block} {s : Statement}
      (hb : .block b ∈ ss) (hpart : part ∈ b.branches) (inside : Occurs part.body around s) :
      Occurs ss (b :: around) s

section Occurs

variable {ss ss' : List Statement} {around : List Block} {s s' : Statement} {b : Block}

theorem not_occurs_nil : ¬ Occurs [] around s := by
  intro h
  cases h with
  | here hs => cases hs
  | body hb inside => cases hb
  | branch hb hpart inside => cases hb

theorem occurs_append : Occurs (ss ++ ss') around s ↔ Occurs ss around s ∨ Occurs ss' around s := by
  constructor
  · intro h
    cases h with
    | here hs => exact (List.mem_append.mp hs).imp .here .here
    | body hb inside =>
      exact (List.mem_append.mp hb).imp (fun hb => .body hb inside) fun hb => .body hb inside
    | branch hb hpart inside =>
      exact (List.mem_append.mp hb).imp (fun hb => .branch hb hpart inside)
        fun hb => .branch hb hpart inside
  · rintro (h | h)
    · cases h with
      | here hs => exact .here (List.mem_append_left _ hs)
      | body hb inside => exact .body (List.mem_append_left _ hb) inside
      | branch hb hpart inside => exact .branch (List.mem_append_left _ hb) hpart inside
    · cases h with
      | here hs => exact .here (List.mem_append_right _ hs)
      | body hb inside => exact .body (List.mem_append_right _ hb) inside
      | branch hb hpart inside => exact .branch (List.mem_append_right _ hb) hpart inside

/-- What stands in a block is the block itself, or stands in its body or a further part. -/
theorem occurs_block : Occurs [.block b] around s
    ↔ (around = [] ∧ s = .block b) ∨ ∃ inner, around = b :: inner
        ∧ (Occurs b.body inner s ∨ ∃ part ∈ b.branches, Occurs part.body inner s) := by
  constructor
  · intro h
    cases h with
    | here hs => exact .inl ⟨rfl, List.mem_singleton.mp hs⟩
    | body hb inside =>
      cases List.mem_singleton.mp hb
      exact .inr ⟨_, rfl, .inl inside⟩
    | branch hb hpart inside =>
      cases List.mem_singleton.mp hb
      exact .inr ⟨_, rfl, .inr ⟨_, hpart, inside⟩⟩
  · rintro (⟨rfl, rfl⟩ | ⟨inner, rfl, inside | ⟨part, hpart, inside⟩⟩)
    · exact .here List.mem_cons_self
    · exact .body List.mem_cons_self inside
    · exact .branch List.mem_cons_self hpart inside

theorem occurs_plain {opening : String} {body : List Statement} :
    Occurs [.block (.plain opening body)] around s
      ↔ (around = [] ∧ s = .block (.plain opening body))
        ∨ ∃ inner, around = .plain opening body :: inner ∧ Occurs body inner s := by
  rw [occurs_block]
  simp [Block.plain]

/-- Nothing stands inside an expression. -/
theorem occurs_expression {code : String} : Occurs [.expression code] around s
    ↔ around = [] ∧ s = .expression code := by
  constructor
  · intro h
    cases h with
    | here hs => exact ⟨rfl, List.mem_singleton.mp hs⟩
    | body hb inside => cases List.mem_singleton.mp hb
    | branch hb hpart inside => cases List.mem_singleton.mp hb
  · rintro ⟨rfl, rfl⟩
    exact .here List.mem_cons_self

/-- Nothing stands inside a local value. -/
theorem occurs_value {name init : String} : Occurs [.value name init] around s
    ↔ around = [] ∧ s = .value name init := by
  constructor
  · intro h
    cases h with
    | here hs => exact ⟨rfl, List.mem_singleton.mp hs⟩
    | body hb inside => cases List.mem_singleton.mp hb
    | branch hb hpart inside => cases List.mem_singleton.mp hb
  · rintro ⟨rfl, rfl⟩
    exact .here List.mem_cons_self

/-- What stands in the body of a block stands behind the block. -/
theorem Occurs.trans {inner : List Block} (h : Occurs ss around (.block b))
    (inside : Occurs b.body inner s) : Occurs ss (around ++ b :: inner) s := by
  generalize hblock : Statement.block b = outer at h
  induction h with
  | here hs =>
    cases hblock
    exact .body hs inside
  | body hb _ ih => exact .body hb (ih hblock)
  | branch hb hpart _ ih => exact .branch hb hpart (ih hblock)

end Occurs

/-! ### What statements do -/

/-- The block executes a request of the client. -/
def Block.Executes (client : String) (b : Block) : Prop :=
  ∃ front, b.opening = front ++ (client ++ ".request")

/-- Failures inside the block are caught. -/
def Block.IsTry (b : Block) : Prop :=
  ∃ front, b.opening = front ++ "try"

/-- The block is a cold stream that the function returns. -/
def Block.IsFlow (b : Block) : Prop :=
  b.opening = "return flow"

def Statement.Executes (client : String) : Statement → Prop
  | .block b => b.Executes client
  | _ => False

/-- The statement calls a member of the context of the running coroutine. -/
def Statement.ReadsContext : Statement → Prop
  | .expression code => ∃ member, code = "currentCoroutineContext()." ++ (member ++ "()")
  | _ => False

/-- The statement passes a value on in a stream. -/
def Statement.Emits : Statement → Prop
  | .expression code => code = "emit(Unit)" ∨ code = "emit(_result)"
  | .block b => ∃ front, b.closing = front ++ ".let \x7b emit(it) \x7d"
  | _ => False

/-- Nothing stands behind the last brace of the statement. -/
def Statement.EndsPlainly : Statement → Prop
  | .block b => b.closing = ""
  | _ => True

/-! ### Calm statements -/

/-- The statement neither executes a request of the client, nor asks for the running
    coroutine, nor passes a value on, and what it denotes goes nowhere. -/
structure Statement.IsCalm (client : String) (s : Statement) : Prop where
  request : ¬ s.Executes client
  context : ¬ s.ReadsContext
  stream : ¬ s.Emits
  ends : s.EndsPlainly

/-- Every statement that stands among these is calm. -/
def Calm (client : String) (ss : List Statement) : Prop :=
  ∀ around s, Occurs ss around s → s.IsCalm client

namespace Calm

variable {client : String} {ss ss' : List Statement} {s : Statement} {b : Block}

theorem nil : Calm client [] :=
  fun _ _ h => (not_occurs_nil h).elim

theorem append (h : Calm client ss) (h' : Calm client ss') : Calm client (ss ++ ss') := by
  intro around s hs
  rcases occurs_append.mp hs with hs | hs
  · exact h around s hs
  · exact h' around s hs

theorem cons (h : Calm client [s]) (h' : Calm client ss) : Calm client (s :: ss) :=
  append h h'

theorem value (name init : String) : Calm client [.value name init] := by
  intro around s hs
  obtain ⟨-, rfl⟩ := occurs_value.mp hs
  exact ⟨id, id, id, True.intro⟩

theorem expression {code : String} (h : (Statement.expression code).IsCalm client) :
    Calm client [.expression code] := by
  intro around s hs
  obtain ⟨-, rfl⟩ := occurs_expression.mp hs
  exact h

/-- A block without further parts is calm with what stands in it. -/
theorem block (h : (Statement.block b).IsCalm client) (hbody : Calm client b.body)
    (hbranches : b.branches = []) : Calm client [.block b] := by
  intro around s hs
  rcases occurs_block.mp hs with ⟨-, rfl⟩ | ⟨inner, -, inside | ⟨part, hpart, -⟩⟩
  · exact h
  · exact hbody inner s inside
  · rw [hbranches] at hpart
    cases hpart

end Calm

end ClientGen.Code
