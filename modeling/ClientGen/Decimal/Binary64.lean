/-
  ClientGen/Decimal/Binary64.lean
  ===============================
  **Finite numbers of the 64-bit binary format, with exact arithmetic.**

  A number is a sign, a significand below `2 ^ 53` and a power of two.  Every
  operation computes the exact quotient of two naturals and rounds it once, to the
  nearest number of the format and to the even one of two nearest.
-/

namespace ClientGen.Decimal

/-! ### Powers -/

def twoTo (n : Nat) : Nat :=
  Nat.pow 2 n

def tenTo (n : Nat) : Nat :=
  Nat.pow 10 n

/-! ### The format -/

/-- The number `± significand * 2 ^ exponent`. -/
structure Binary64 where
  negative : Bool
  significand : Nat
  exponent : Int
deriving DecidableEq, Repr, Inhabited

def minExponent : Int := -1074

def maxExponent : Int := 971

def Binary64.zero (negative : Bool) : Binary64 :=
  ⟨negative, 0, minExponent⟩

/-- The number with the opposite sign when `flip` holds. -/
def Binary64.negateIf (flip : Bool) (x : Binary64) : Binary64 :=
  ⟨x.negative != flip, x.significand, x.exponent⟩

/-! ### Rounding -/

/-- Which of two nearest numbers is taken. -/
inductive Tie where
  | even
  | up
deriving DecidableEq, Repr

/-- The number `q`, in the middle between it and the next one, goes up. -/
def Tie.goesUp : Tie → Nat → Bool
  | .even, q => q % 2 == 1
  | .up, _ => true

/-- The natural number nearest to `num / den`. -/
def nearestNat (tie : Tie) (num den : Nat) : Nat :=
  let q := num / den
  let r := num % den
  if 2 * r < den then q
  else if den < 2 * r then q + 1
  else if tie.goesUp q then q + 1 else q

/-- The quotient `num / den` scaled by `2 ^ (-e)`, as a pair of naturals. -/
def scaled (num den : Nat) (e : Int) : Nat × Nat :=
  if 0 ≤ e then (num, den * twoTo e.toNat) else (num * twoTo (-e).toNat, den)

/-- The exponent at which `num / den` has a 53-bit significand, or the least one. -/
def roundingExponent (num den : Nat) : Int :=
  let e : Int := (num.log2 : Int) - den.log2 - 52
  let (n, d) := scaled num den e
  let e := if n / d < twoTo 52 then e - 1 else e
  max e minExponent

/-- The number nearest to `num / den`; nothing when it is beyond the format. -/
def ofQuotient (num den : Nat) : Option Binary64 :=
  if num = 0 then some (.zero false)
  else
    let e := roundingExponent num den
    let (n, d) := scaled num den e
    let m := nearestNat .even n d
    let (m, e) := if m = twoTo 53 then (twoTo 52, e + 1) else (m, e)
    if maxExponent < e then none else some ⟨false, m, e⟩

def Binary64.quotient (x : Binary64) : Nat × Nat :=
  if 0 ≤ x.exponent then (x.significand * twoTo x.exponent.toNat, 1)
  else (x.significand, twoTo (-x.exponent).toNat)

def ofNat (n : Nat) : Option Binary64 :=
  ofQuotient n 1

def Binary64.times (x y : Binary64) : Option Binary64 :=
  ofQuotient (x.quotient.1 * y.quotient.1) (x.quotient.2 * y.quotient.2)

def Binary64.over (x y : Binary64) : Option Binary64 :=
  ofQuotient (x.quotient.1 * y.quotient.2) (x.quotient.2 * y.quotient.1)

/-! ### Reading scientific notation -/

def maxPower : Nat := 308

/-- Divide by a rounded power of ten. -/
def divideByPower (x : Binary64) (power : Nat) : Option Binary64 :=
  (ofNat (tenTo power)).bind x.over

/-- Divide `rounds` times by the greatest power of ten, then by `10 ^ last`; zero
    stays zero. -/
def divideInRounds (last : Nat) : Nat → Binary64 → Option Binary64
  | 0, x => divideByPower x last
  | rounds + 1, x =>
    if x.significand = 0 then some x
    else (divideByPower x maxPower).bind (divideInRounds last rounds)

/-- The number read from `significand * 10 ^ exponent`: the significand is rounded
    first, then multiplied or divided by the rounded power of ten.  Nothing when
    the number is beyond the format. -/
def ofScientific (significand : Nat) (exponent : Int) : Option Binary64 :=
  match ofNat significand with
  | none => none
  | some x =>
    if exponent < 0 then
      let rounds := ((-exponent).toNat - 1) / maxPower
      divideInRounds ((-exponent).toNat - rounds * maxPower) rounds x
    else if exponent ≤ maxPower then (ofNat (tenTo exponent.toNat)).bind x.times
    else if significand = 0 then some x
    else none

end ClientGen.Decimal
