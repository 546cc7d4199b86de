/-
  ClientGen/Proofs/Imports.lean
  =============================
  **What is written in every file.**

  The names of a file decide how a name is written and nothing else.  `Writes w P` says
  that what `w` writes satisfies `P` whatever names the file has, and one rule for each
  way of writing composes it.
-/
import ClientGen.Imports
import Mathlib.Data.List.Forall2

namespace ClientGen

/-- What is written satisfies `P` in every file. -/
def Writes {α : Type} (w : NameM α) (P : α → Prop) : Prop :=
  ∀ names, P (w.run names).1

namespace Writes

variable {α β : Type} {w : NameM α} {P : α → Prop}

theorem imp {Q : α → Prop} (hw : Writes w P) (hPQ : ∀ a, P a → Q a) : Writes w Q :=
  fun names => hPQ _ (hw names)

theorem trivial (w : NameM α) : Writes w fun _ => True :=
  fun _ => True.intro

theorem pure {a : α} (h : P a) : Writes (pure a) P :=
  fun _ => h

theorem bind {k : α → NameM β} {Q : β → Prop} (hw : Writes w P)
    (hk : ∀ a, P a → Writes (k a) Q) : Writes (w >>= k) Q :=
  fun names => hk _ (hw names) (w.run names).2

theorem mapM {g : α → NameM β} {R : α → β → Prop} {xs : List α}
    (h : ∀ x ∈ xs, Writes (g x) (R x)) : Writes (xs.mapM g) (List.Forall₂ R xs) := by
  induction xs with
  | nil => exact pure .nil
  | cons x xs ih =>
    rw [List.mapM_cons]
    refine bind (h x List.mem_cons_self) fun y hy => ?_
    refine bind (ih fun x hx => h x (List.mem_cons_of_mem _ hx)) fun ys hys => ?_
    exact pure (.cons hy hys)

/-- What every step keeps holds after all of them. -/
theorem foldlM {step : β → α → NameM β} {Q : β → Prop}
    (hstep : ∀ b a, Q b → Writes (step b a) Q) (xs : List α) {b : β} (hb : Q b) :
    Writes (xs.foldlM step b) Q := by
  induction xs generalizing b with
  | nil => exact pure hb
  | cons x xs ih =>
    rw [List.foldlM_cons]
    exact bind (hstep b x hb) fun _ hnext => ih hnext

/-- A member is written by its simple name. -/
theorem member {name simple : String} (h : (splitLast name).map Prod.snd = some simple) :
    Writes (writeMember name) (· = simple) := by
  intro names
  unfold writeMember
  cases hsplit : splitLast name with
  | none => rw [hsplit] at h; cases h
  | some split => rw [hsplit] at h; cases h; rfl

end Writes

end ClientGen
