/-
  ClientGen/Options.lean
  ======================
  **Options of the generator.**

  Options are read from texts under fixed keys.  Unknown keys are ignored; the first
  known key with a bad value, in ascending order of keys, is the error.
-/
import ClientGen.Ascending
import ClientGen.Text.Blank
import ClientGen.Text.Name

namespace ClientGen

open ClientGen.Text

/-! ### Values -/

/-- How errors of the validation reach a listener. -/
inductive CheckLevel where
  /-- They are not reported; invalid interfaces are dropped all the same. -/
  | off
  | errors
  | warnings
deriving DecidableEq, Repr, Inhabited

def CheckLevel.keyword : CheckLevel → String
  | .off => "off"
  | .errors => "errors"
  | .warnings => "warnings"

structure Options where
  checkLevel : CheckLevel
  /-- Announce the causes of failures too. -/
  printCauses : Bool
  /-- Generate multiplatform factories. -/
  experimental : Bool
  /-- How many rounds a declaration with unresolved types may wait, at least one. -/
  maxDeferredRounds : Nat
deriving DecidableEq, Repr, Inhabited

def Options.default : Options :=
  ⟨.errors, false, false, 3⟩

/-! ### Keys -/

def checkLevelKey : String := "ktorgen_check_type"

def printCausesKey : String := "ktorgen_print_stacktrace_on_exception"

def experimentalKey : String := "ktorgen_experimental"

def maxDeferredRoundsKey : String := "ktorgen_max_deferred_rounds"

/-! ### Errors -/

inductive OptionsError where
  | invalidValue (key value expected : String)
  | malformedPair (pair : String)
deriving DecidableEq, Repr

def OptionsError.message : OptionsError → String
  | .invalidValue key value expected =>
    "Invalid value '" ++ value ++ "' for option '" ++ key ++ "', expected " ++ expected
  | .malformedPair pair => "Option '" ++ pair ++ "' must be written as key=value"

/-! ### Reading -/

def readCheckLevel (value : String) : Except OptionsError CheckLevel :=
  match trim value with
  | "0" => .ok .off
  | "1" => .ok .errors
  | "2" => .ok .warnings
  | other => .error (.invalidValue checkLevelKey other "0, 1 or 2")

def readSwitch (key value : String) : Except OptionsError Bool :=
  let v := asciiLower (trim value)
  if v = "true" ∨ v = "1" ∨ v = "yes" then .ok true
  else if v = "false" ∨ v = "0" ∨ v = "no" then .ok false
  else .error (.invalidValue key value "true or false")

def maxBudget : Nat := UInt32.size - 1

def digitsNat? (cs : List Char) : Option Nat :=
  if cs.isEmpty || !cs.all Char.isDigit then none
  else some (cs.foldl (fun n c => n * 10 + (c.toNat - '0'.toNat)) 0)

/-- The natural number that a text writes: decimal digits behind an optional plus. -/
def natural? (s : String) : Option Nat :=
  match s.toList with
  | '+' :: cs => digitsNat? cs
  | cs => digitsNat? cs

def readBudget (value : String) : Except OptionsError Nat :=
  match natural? (trim value) with
  | some n =>
    if 1 ≤ n ∧ n ≤ maxBudget then .ok n
    else .error (.invalidValue maxDeferredRoundsKey value "an integer >= 1")
  | none => .error (.invalidValue maxDeferredRoundsKey value "an integer >= 1")

/-- The options after one more entry. -/
def Options.set (o : Options) (key value : String) : Except OptionsError Options :=
  if key = checkLevelKey then
    (readCheckLevel value).map fun v => { o with checkLevel := v }
  else if key = printCausesKey then
    (readSwitch key value).map fun v => { o with printCauses := v }
  else if key = experimentalKey then
    (readSwitch key value).map fun v => { o with experimental := v }
  else if key = maxDeferredRoundsKey then
    (readBudget value).map fun v => { o with maxDeferredRounds := v }
  else .ok o

/-- Set every entry in turn, the first bad one being the error. -/
def Options.setAll (o : Options) : List (String × String) → Except OptionsError Options
  | [] => .ok o
  | (key, value) :: rest =>
    match o.set key value with
    | .error e => .error e
    | .ok o => o.setAll rest

def Options.ofMap (entries : List (String × String)) : Except OptionsError Options :=
  Options.default.setAll (Ascending.ofEntries entries)

/-- A text cut at its first equals sign, without the blanks around key and value. -/
def readPair (pair : String) : Except OptionsError (String × String) :=
  match splitOnce '=' pair with
  | some (key, value) => .ok (trim key, trim value)
  | none => .error (.malformedPair pair)

/-- Cut every text, the first malformed one being the error. -/
def readPairs : List String → Except OptionsError (List (String × String))
  | [] => .ok []
  | pair :: rest =>
    match readPair pair with
    | .error e => .error e
    | .ok entry => (readPairs rest).map (entry :: ·)

def Options.ofPairs (pairs : List String) : Except OptionsError Options :=
  (readPairs pairs).bind Options.ofMap

end ClientGen
