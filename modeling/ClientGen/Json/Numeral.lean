/-
  ClientGen/Json/Numeral.lean
  ===========================
  **Numerals of the text layer.**

  An integer without fraction and exponent stays an integer while it fits 64 bits.
  Any other numeral keeps as many leading digits as fit 64 bits; the digits beyond
  only move the decimal exponent.
-/
import ClientGen.Json.Value

namespace ClientGen.Json

open ClientGen.Decimal

/-! ### Written form -/

/-- A numeral cut into its parts. -/
structure Numeral where
  negative : Bool
  whole : List Nat
  fraction : Option (List Nat)
  exponent : Option (Bool × List Nat)
deriving DecidableEq, Repr

def spanDigits : List Char → List Nat × List Char
  | [] => ([], [])
  | c :: cs =>
    if c.isDigit then
      let (ds, rest) := spanDigits cs
      ((c.toNat - '0'.toNat) :: ds, rest)
    else ([], c :: cs)

/-- The fraction behind the whole digits: a point needs a digit behind it. -/
def takeFraction : List Char → Option (Option (List Nat) × List Char)
  | '.' :: cs =>
    match spanDigits cs with
    | ([], _) => none
    | (ds, rest) => some (some ds, rest)
  | cs => some (none, cs)

def takeExponentDigits (negative : Bool) (cs : List Char) :
    Option (Option (Bool × List Nat) × List Char) :=
  match spanDigits cs with
  | ([], _) => none
  | (ds, rest) => some (some (negative, ds), rest)

def takeExponent : List Char → Option (Option (Bool × List Nat) × List Char)
  | c :: cs =>
    if c = 'e' ∨ c = 'E' then
      match cs with
      | '+' :: rest => takeExponentDigits false rest
      | '-' :: rest => takeExponentDigits true rest
      | rest => takeExponentDigits false rest
    else some (none, c :: cs)
  | [] => some (none, [])

/-- The whole digits: one at least, and a leading zero stands alone. -/
def wholeDigits? (ds : List Nat) : Bool :=
  match ds with
  | [] => false
  | [_] => true
  | d :: _ => d != 0

def Numeral.ofChars? (cs : List Char) : Option Numeral := do
  let (negative, cs) := match cs with
    | '-' :: rest => (true, rest)
    | rest => (false, rest)
  let (whole, cs) := spanDigits cs
  guard (wholeDigits? whole)
  let (fraction, cs) ← takeFraction cs
  let (exponent, cs) ← takeExponent cs
  guard cs.isEmpty
  return ⟨negative, whole, fraction, exponent⟩

/-! ### Value -/

def maxSignificand : Nat := UInt64.size - 1

/-- Digits read so far: `significand * 10 ^ exponent`, and whether a digit has
    already been left out. -/
structure Digits where
  significand : Nat
  exponent : Int
  full : Bool
deriving DecidableEq, Repr

def Digits.pushWhole (d : Digits) (digit : Nat) : Digits :=
  if d.full then { d with exponent := d.exponent + 1 }
  else if d.significand * 10 + digit ≤ maxSignificand then
    { d with significand := d.significand * 10 + digit }
  else { d with exponent := d.exponent + 1, full := true }

def Digits.pushFraction (d : Digits) (digit : Nat) : Digits :=
  if d.full then d
  else if d.significand * 10 + digit ≤ maxSignificand then
    { d with significand := d.significand * 10 + digit, exponent := d.exponent - 1 }
  else { d with full := true }

def maxWrittenExponent : Nat := 2147483647

/-- Keep an exponent within 32 bits. -/
def clampExponent (e : Int) : Int :=
  max (-2147483648) (min e maxWrittenExponent)

def digitsValue (ds : List Nat) : Nat :=
  ds.foldl (fun n d => n * 10 + d) 0

def signedFloat (negative : Bool) (x : Option Binary64) : Json :=
  match x with
  | none => .unreadable
  | some x => .float (x.negateIf negative)

def maxMagnitude : Nat := UInt64.size / 2

def wholeValue (negative : Bool) (n : Nat) : Json :=
  if !negative then .int n
  else if n = 0 then .float (.zero true)
  else if n ≤ maxMagnitude then .int (-(n : Int))
  else signedFloat true (ofNat n)

def Numeral.value (n : Numeral) : Json :=
  let whole := n.whole.foldl Digits.pushWhole ⟨0, 0, false⟩
  match n.fraction, n.exponent with
  | none, none =>
    if whole.full then signedFloat n.negative (ofScientific whole.significand whole.exponent)
    else wholeValue n.negative whole.significand
  | fraction, exponent =>
    let all := (fraction.getD []).foldl Digits.pushFraction { whole with full := false }
    match exponent with
    | none => signedFloat n.negative (ofScientific all.significand all.exponent)
    | some (down, ds) =>
      let e := digitsValue ds
      if maxWrittenExponent < e then
        if all.significand ≠ 0 ∧ ¬ down then .unreadable
        else .float (.zero n.negative)
      else
        let e := clampExponent (if down then all.exponent - e else all.exponent + e)
        signedFloat n.negative (ofScientific all.significand e)

end ClientGen.Json
