/-
  ClientGen/Decimal/Shortest.lean
  ===============================
  **The fewest digits that read back.**

  A number of the 64-bit format stands for every real that rounds to it.  Among the
  decimals in that interval the shortest is chosen, and the nearest of those.
-/
import ClientGen.Decimal.Binary64

namespace ClientGen.Decimal

/-! ### The interval of a number -/

/-- Four times the bounds of the reals that round to `x`, over a common
    denominator: `low / den`, `mid / den` and `high / den`. -/
structure Interval where
  low : Nat
  mid : Nat
  high : Nat
  den : Nat
  /-- The bounds themselves round to the number. -/
  closed : Bool
deriving DecidableEq, Repr

def Binary64.interval (x : Binary64) : Interval :=
  let m := 4 * x.significand
  let below := if x.significand = twoTo 52 ∧ minExponent < x.exponent then 1 else 2
  let scale := twoTo x.exponent.toNat
  let den := 4 * twoTo (-x.exponent).toNat
  ⟨(m - below) * scale, m * scale, (m + 2) * scale, den, x.significand % 2 = 0⟩

/-- The decimal `digits * 10 ^ power` lies in the interval. -/
def Interval.holds (i : Interval) (digits : Nat) (power : Int) : Bool :=
  let num := digits * tenTo power.toNat * i.den
  let unit := tenTo (-power).toNat
  if i.closed then i.low * unit ≤ num && num ≤ i.high * unit
  else i.low * unit < num && num < i.high * unit

/-! ### Choosing digits -/

def digitCount (n : Nat) : Nat :=
  (Nat.toDigits 10 n).length

/-- The least power of ten above `num / den`, both positive. -/
def leadingPower (num den : Nat) : Int :=
  if den ≤ num then digitCount (num / den)
  else 1 - (digitCount ((den - 1) / num) : Int)

/-- A decimal as digits and a power of ten: `digits * 10 ^ power`. -/
structure Scaled where
  digits : Nat
  power : Int
deriving DecidableEq, Repr

/-- The neighbours of the number on the grid of `10 ^ power` that lie in the
    interval: the nearer one first, of two equally near the one that `tie` takes. -/
def Interval.onGrid (i : Interval) (tie : Tie) (power : Int) : List Scaled :=
  let num := i.mid * tenTo (-power).toNat
  let den := i.den * tenTo power.toNat
  let d := num / den
  let nearer := nearestNat tie num den
  let other := if nearer = d then d + 1 else d
  ([nearer, other].filter fun n => i.holds n power).map fun n => ⟨n, power⟩

/-- The first grid with a decimal in the interval, from `count` digits on. -/
def Interval.search (i : Interval) (tie : Tie) (lead : Int) : Nat → Nat → Scaled
  | 0, count => ⟨nearestNat tie (i.mid * tenTo (count - lead).toNat) i.den, lead - count⟩
  | grids + 1, count =>
    match i.onGrid tie (lead - count) with
    | d :: _ => if d.digits = tenTo count then ⟨1, d.power + count⟩ else d
    | [] => i.search tie lead grids (count + 1)

/-- The shortest decimal that reads back as the magnitude of `x`, of two equally near ones
    the one that `tie` takes; zero is `0`. -/
def Binary64.shortest (x : Binary64) (tie : Tie) : Scaled :=
  if x.significand = 0 then ⟨0, 0⟩
  else
    let i := x.interval
    i.search tie (leadingPower i.mid i.den) 17 1

/-! ### Written forms -/

def zeros (n : Nat) : String :=
  String.ofList (List.replicate n '0')

def signText (negative : Bool) : String :=
  if negative then "-" else ""

def Scaled.positional (d : Scaled) : String :=
  let ds := (Nat.toDigits 10 d.digits)
  if 0 ≤ d.power then String.ofList ds ++ zeros d.power.toNat
  else
    let places := (-d.power).toNat
    if ds.length ≤ places then
      "0." ++ zeros (places - ds.length) ++ String.ofList ds
    else
      String.ofList (ds.take (ds.length - places)) ++ "."
        ++ String.ofList (ds.drop (ds.length - places))

/-- The written form in programs: positional, never with an exponent and without an empty
    fraction; of two equally near decimals the greater one is written. -/
def Binary64.positional (x : Binary64) : String :=
  signText x.negative ++ (x.shortest .up).positional

/-- Scientific notation with one digit in front of the point and a sign in front of the
    exponent. -/
def Scaled.scientific (d : Scaled) : String :=
  let ds := Nat.toDigits 10 d.digits
  let e := d.power + ds.length - 1
  let mantissa :=
    match ds with
    | [] => "0"
    | [c] => String.ofList [c]
    | c :: cs => String.ofList (c :: '.' :: cs)
  mantissa ++ "e" ++ (if e < 0 then "-" else "+") ++ toString e.natAbs

/-- The written form in data files: positional with a fraction while the point
    falls between five zeros behind it and sixteen digits in front of it,
    scientific otherwise; of two equally near decimals the even one is written. -/
def Binary64.dataText (x : Binary64) : String :=
  let d := x.shortest .even
  let point := d.power + (Nat.toDigits 10 d.digits).length
  let body :=
    if x.significand = 0 then "0.0"
    else if 0 ≤ d.power && point ≤ 16 then d.positional ++ ".0"
    else if -5 < point && point ≤ 16 then d.positional
    else d.scientific
  signText x.negative ++ body

end ClientGen.Decimal
