/-
  ClientGen/Round/Candidate.lean
  ==============================
  **What a round looks at.**

  The candidates among the declarations of a table, followed by the declarations that
  earlier rounds deferred and that the table does not repeat.
-/
import ClientGen.Ascending
import ClientGen.Model.Extract

namespace ClientGen

/-! ### Tables -/

def SymbolTable.candidates (t : SymbolTable) : List ClassDeclaration :=
  t.classes.filter ClassDeclaration.isCandidate

def FunctionDeclaration.isFactoryOf (f : FunctionDeclaration) (interface : String) : Bool :=
  (readFactoryHeader f.annotations).isSome && f.returnType.any fun t => t.is interface

def SymbolTable.factoriesOf (t : SymbolTable) (interface : String) : List FunctionDeclaration :=
  t.functions.filter fun f => f.isFactoryOf interface

/-! ### Candidates -/

/-- A declaration with the number of rounds that deferred it, which the budget bounds. -/
structure Candidate where
  declaration : ClassDeclaration
  deferrals : Nat
deriving Repr, Inhabited

namespace Candidate

def name (c : Candidate) : String :=
  c.declaration.qualifiedName

def defer (c : Candidate) : Candidate :=
  { c with deferrals := c.deferrals + 1 }

end Candidate

/-- Deferred declarations under their names, in ascending order. -/
abbrev Pending : Type := List (String × Candidate)

def Pending.deferrals (pending : Pending) (name : String) : Nat :=
  match pending.lookup name with
  | some c => c.deferrals
  | none => 0

/-- The declarations of a table as candidates.  A deferred one goes on with its number of
    deferrals; what is left are the deferred ones that the table does not repeat. -/
def takeDeclared : List ClassDeclaration → Pending → List Candidate × Pending
  | [], pending => ([], pending)
  | c :: cs, pending =>
    let (rest, left) := takeDeclared cs (Ascending.erase c.qualifiedName pending)
    (⟨c, pending.deferrals c.qualifiedName⟩ :: rest, left)

def roundCandidates (t : SymbolTable) (pending : Pending) : List Candidate :=
  let (declared, left) := takeDeclared t.candidates pending
  declared ++ left.map Prod.snd

end ClientGen
