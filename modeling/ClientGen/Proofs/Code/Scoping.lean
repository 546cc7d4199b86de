/-
  ClientGen/Proofs/Code/Scoping.lean
  ==================================
  **What a name denotes where it stands.**

  `StandsWith ss locals s` says that `s` stands somewhere in the statements `ss` where the
  local names `locals` are bound, the innermost first: those of the values in front of it
  and those that the blocks around it bind.  The text around the braces of a block stands
  outside of the block.  A name that nothing local binds is that of a parameter of the
  function, and one that no parameter has is that of a property of the class
  (`Function.denotes?`).
-/
import ClientGen.Proofs.Code.Nesting
import ClientGen.Text.Split

namespace ClientGen.Code

open ClientGen.Text

/-! ### Names that are bound -/

/-- The name that a text in front of a brace declares: `val name = …`. -/
def declaredIn? (opening : String) : Option String :=
  (dropFront "val ".toList opening.toList).bind fun rest =>
    (splitFirst ' ' rest).map fun e => String.ofList e.1

/-- The names that a statement declares for those behind it. -/
def Statement.declares : Statement → List String
  | .value name _ => [name]
  | .block b => (declaredIn? b.opening).toList
  | _ => []

/-- The names that a block binds in its body: its own, or `it` for what it runs on. -/
def Block.binds (b : Block) : List String :=
  match b.parameters with
  | some name => [name]
  | none => if endsWith b.opening ".let" || endsWith b.opening ".forEach" then ["it"] else []

/-- The name in a label such as `catch (name: Type)`. -/
def Branch.binds (part : Branch) : List String :=
  ((splitOnce '(' part.label).bind fun e => (splitOnce ':' e.2).map Prod.fst).toList

/-! ### Places -/

/-- The statement stands in a body where these local names are bound. -/
inductive StandsWith : List Statement → List String → Statement → Prop
  | here {ss : List Statement} {s : Statement} : StandsWith (s :: ss) [] s
  | later {ss : List Statement} {locals : List String} {first s : Statement}
      (behind : StandsWith ss locals s) : StandsWith (first :: ss) (locals ++ first.declares) s
  | body {ss : List Statement} {b : Block} {locals : List String} {s : Statement}
      (inside : StandsWith b.body locals s) : StandsWith (.block b :: ss) (locals ++ b.binds) s
  | branch {ss : List Statement} {b : Block} {part : Branch} {locals : List String}
      {s : Statement} (hpart : part ∈ b.branches) (inside : StandsWith part.body locals s) :
      StandsWith (.block b :: ss) (locals ++ part.binds) s

/-- What stands somewhere with names in scope stands there inside some blocks. -/
theorem StandsWith.occurs {ss : List Statement} {locals : List String} {s : Statement}
    (h : StandsWith ss locals s) : ∃ around, Occurs ss around s := by
  induction h with
  | here => exact ⟨[], .here List.mem_cons_self⟩
  | @later ss locals first s _ ih =>
    obtain ⟨around, hs⟩ := ih
    have hall : Occurs ([first] ++ ss) around s := occurs_append.mpr (.inr hs)
    exact ⟨around, hall⟩
  | body _ ih =>
    obtain ⟨around, hs⟩ := ih
    exact ⟨_, .body List.mem_cons_self hs⟩
  | branch hpart _ ih =>
    obtain ⟨around, hs⟩ := ih
    exact ⟨_, .branch List.mem_cons_self hpart hs⟩

section StandsWith

variable {ss : List Statement} {locals : List String} {first s : Statement}

theorem not_standsWith_nil : ¬ StandsWith [] locals s :=
  nofun

/-- What stands among statements stands in the first of them, or where that one has declared
    its names. -/
theorem standsWith_cons : StandsWith (first :: ss) locals s
    ↔ StandsWith [first] locals s
      ∨ ∃ inner, locals = inner ++ first.declares ∧ StandsWith ss inner s := by
  constructor
  · intro h
    cases h with
    | here => exact .inl .here
    | later behind => exact .inr ⟨_, rfl, behind⟩
    | body inside => exact .inl (.body inside)
    | branch hpart inside => exact .inl (.branch hpart inside)
  · rintro (h | ⟨inner, rfl, behind⟩)
    · cases h with
      | here => exact .here
      | later behind => cases behind
      | body inside => exact .body inside
      | branch hpart inside => exact .branch hpart inside
    · exact .later behind

/-- What stands in a block is the block itself, or stands where the body or a further part
    has bound its names. -/
theorem standsWith_block {b : Block} : StandsWith [.block b] locals s
    ↔ (locals = [] ∧ s = .block b)
      ∨ (∃ inner, locals = inner ++ b.binds ∧ StandsWith b.body inner s)
      ∨ ∃ part ∈ b.branches, ∃ inner, locals = inner ++ part.binds
          ∧ StandsWith part.body inner s := by
  constructor
  · intro h
    cases h with
    | here => exact .inl ⟨rfl, rfl⟩
    | later behind => cases behind
    | body inside => exact .inr (.inl ⟨_, rfl, inside⟩)
    | branch hpart inside => exact .inr (.inr ⟨_, hpart, _, rfl, inside⟩)
  · rintro (⟨rfl, rfl⟩ | ⟨inner, rfl, inside⟩ | ⟨part, hpart, inner, rfl, inside⟩)
    · exact .here
    · exact .body inside
    · exact .branch hpart inside

theorem eq_expression_of_standsWith {code : String}
    (h : StandsWith [.expression code] locals s) : s = .expression code := by
  cases h with
  | here => rfl
  | later behind => cases behind

end StandsWith

/-! ### Names without a qualifier -/

/-- What a name denotes inside a function of a class. -/
inductive Referent where
  | localName
  | parameter (p : Param)
  | property (p : Param)
deriving DecidableEq, Repr

/-- What a name denotes where these local names are bound: the innermost scope decides. -/
def Function.denotes? (g : Function) (c : Class) (locals : List String) (name : String) :
    Option Referent :=
  if locals.contains name then some .localName
  else match g.params.find? fun p => p.name == name with
    | some p => some (.parameter p)
    | none =>
      (c.constructorParams.find? fun p => p.property.isSome && p.name == name).map .property

/-- Where nothing is bound, the first property denotes itself unless a parameter has its name. -/
theorem Function.denotes?_first {g : Function} {c : Class} {p : Param} {others : List Param}
    (hparams : c.constructorParams = p :: others) (hproperty : p.property.isSome = true) :
    g.denotes? c [] p.name = some (.property p) ↔ ∀ q ∈ g.params, q.name ≠ p.name := by
  have hfirst : (c.constructorParams.find? fun q => q.property.isSome && q.name == p.name)
      = some p := by
    rw [hparams]
    exact List.find?_cons_of_pos (by rw [hproperty, beq_self_eq_true]; rfl)
  unfold Function.denotes?
  cases hfound : g.params.find? fun q => q.name == p.name with
  | none =>
    rw [hfirst]
    refine iff_of_true rfl fun q hq => ?_
    simpa using List.find?_eq_none.mp hfound q hq
  | some q =>
    refine iff_of_false ?_ fun hnone => ?_
    · intro h
      cases h
    · have hname := List.find?_some hfound
      exact hnone q (List.mem_of_find?_eq_some hfound) (eq_of_beq hname)

end ClientGen.Code
