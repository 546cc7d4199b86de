/-
  ClientGen/Diagnostics/Fatal.lean
  ================================
  **Failures that end a round.**

  A round dies of a declaration that is not supported or never resolves, or of a
  state that the generator's tables do not cover.  Failures raised while one is
  already on its way are attached to it and never replace it.
-/
import ClientGen.Text.Split

namespace ClientGen

open ClientGen.Text

/-- A failure that ends a round. -/
inductive Fatal where
  /-- A declaration made the round fail; `causes` are the texts of the errors behind
      it, the nearest first. -/
  | die (message : String) (symbol : Option String) (causes : List String)
      (suppressed : List Fatal)
  /-- The generator reached a state that it does not cover. -/
  | implementation (message : String) (suppressed : List Fatal)
deriving Repr, Inhabited

namespace Fatal

def dying (message : String) (symbol : Option String) : Fatal :=
  .die message symbol [] []

/-- A defect of the generator. -/
def defect (message : String) : Fatal :=
  .implementation message []

def display : Fatal → String
  | .die message _ _ _ => "Fatal error occurred. " ++ message
  | .implementation message _ =>
    "Implementation error: " ++ message
      ++ "\nPlease report this issue to the KtorGen maintainers with the interface that "
      ++ "triggered it."

def causes : Fatal → List String
  | .die _ _ cs _ => cs
  | .implementation _ _ => []

def symbol? : Fatal → Option String
  | .die _ s _ _ => s
  | .implementation _ _ => none

/-- Failures raised while this one was on its way. -/
def suppressed : Fatal → List Fatal
  | .die _ _ _ fs => fs
  | .implementation _ fs => fs

/-- Name the texts of the errors behind the failure; a defect has none. -/
def withCauses (cs : List String) : Fatal → Fatal
  | .die m s _ fs => .die m s cs fs
  | f => f

def causedBy (f cause : Fatal) : Fatal :=
  f.withCauses (cause.display :: cause.causes)

def suppress (f other : Fatal) : Fatal :=
  match f with
  | .die m s cs fs => .die m s cs (fs ++ [other])
  | .implementation m fs => .implementation m (fs ++ [other])

/-! ### Full report -/

def indentRest (s : String) : String :=
  String.ofList (replaceChar '\n' "\n    ".toList s.toList)

def reportText (display : String) (causes suppressed : List String) : String :=
  String.join (display :: causes.map (fun c => "\nCaused by: " ++ c)
    ++ suppressed.map fun r => "\nSuppressed: " ++ indentRest r)

mutual
def report : Fatal → String
  | .die m s cs fs => reportText (display (.die m s cs fs)) cs (reports fs)
  | .implementation m fs => reportText (display (.implementation m fs)) [] (reports fs)

def reports : List Fatal → List String
  | [] => []
  | f :: fs => report f :: reports fs
end

/-- What a listener is told: the full report when causes are asked for. -/
def announcement (f : Fatal) (withCauses : Bool) : String :=
  if withCauses then f.report else f.display

end Fatal

end ClientGen
