/-
  ClientGen/Declaration/TypeRefEq.lean
  ====================================
  **Equality of types can be decided.**
-/
import ClientGen.Declaration.TypeRef

namespace ClientGen

mutual
/-- Decide whether two types are equal. -/
def TypeRef.decEq : (t u : TypeRef) → Decidable (t = u)
  | ⟨n, q, as, r, v, f⟩, ⟨n', q', as', r', v', f'⟩ =>
    match TypeArgument.decEqList as as', FunctionType.decEqOption f f' with
    | isTrue h₁, isTrue h₂ =>
      if h : n = n' ∧ q = q' ∧ r = r' ∧ v = v' then
        isTrue (by obtain ⟨rfl, rfl, rfl, rfl⟩ := h; rw [h₁, h₂])
      else isFalse fun e => h (by cases e; exact ⟨rfl, rfl, rfl, rfl⟩)
    | isFalse h, _ => isFalse fun e => h (by cases e; rfl)
    | _, isFalse h => isFalse fun e => h (by cases e; rfl)

def TypeArgument.decEq : (a b : TypeArgument) → Decidable (a = b)
  | .star, .star => isTrue rfl
  | .star, .type _ => isFalse fun e => by cases e
  | .type _, .star => isFalse fun e => by cases e
  | .type t, .type u =>
    match TypeRef.decEq t u with
    | isTrue h => isTrue (by rw [h])
    | isFalse h => isFalse fun e => h (by cases e; rfl)

def TypeArgument.decEqList : (as bs : List TypeArgument) → Decidable (as = bs)
  | [], [] => isTrue rfl
  | [], _ :: _ => isFalse fun e => by cases e
  | _ :: _, [] => isFalse fun e => by cases e
  | a :: as, b :: bs =>
    match TypeArgument.decEq a b, TypeArgument.decEqList as bs with
    | isTrue h₁, isTrue h₂ => isTrue (by rw [h₁, h₂])
    | isFalse h, _ => isFalse fun e => h (by cases e; rfl)
    | _, isFalse h => isFalse fun e => h (by cases e; rfl)

def FunctionType.decEq : (f g : FunctionType) → Decidable (f = g)
  | ⟨r, ps, t, s⟩, ⟨r', ps', t', s'⟩ =>
    match TypeRef.decEqOption r r', TypeRef.decEqList ps ps', TypeRef.decEq t t' with
    | isTrue h₁, isTrue h₂, isTrue h₃ =>
      if h : s = s' then isTrue (by rw [h₁, h₂, h₃, h])
      else isFalse fun e => h (by cases e; rfl)
    | isFalse h, _, _ => isFalse fun e => h (by cases e; rfl)
    | _, isFalse h, _ => isFalse fun e => h (by cases e; rfl)
    | _, _, isFalse h => isFalse fun e => h (by cases e; rfl)

def FunctionType.decEqOption : (f g : Option FunctionType) → Decidable (f = g)
  | none, none => isTrue rfl
  | none, some _ => isFalse fun e => by cases e
  | some _, none => isFalse fun e => by cases e
  | some f, some g =>
    match FunctionType.decEq f g with
    | isTrue h => isTrue (by rw [h])
    | isFalse h => isFalse fun e => h (by cases e; rfl)

def TypeRef.decEqOption : (t u : Option TypeRef) → Decidable (t = u)
  | none, none => isTrue rfl
  | none, some _ => isFalse fun e => by cases e
  | some _, none => isFalse fun e => by cases e
  | some t, some u =>
    match TypeRef.decEq t u with
    | isTrue h => isTrue (by rw [h])
    | isFalse h => isFalse fun e => h (by cases e; rfl)

def TypeRef.decEqList : (ts us : List TypeRef) → Decidable (ts = us)
  | [], [] => isTrue rfl
  | [], _ :: _ => isFalse fun e => by cases e
  | _ :: _, [] => isFalse fun e => by cases e
  | t :: ts, u :: us =>
    match TypeRef.decEq t u, TypeRef.decEqList ts us with
    | isTrue h₁, isTrue h₂ => isTrue (by rw [h₁, h₂])
    | isFalse h, _ => isFalse fun e => h (by cases e; rfl)
    | _, isFalse h => isFalse fun e => h (by cases e; rfl)
end

instance : DecidableEq TypeRef := TypeRef.decEq

instance : DecidableEq TypeArgument := TypeArgument.decEq

instance : DecidableEq FunctionType := FunctionType.decEq

end ClientGen
