/-
  ClientGen/Web/Punycode.lean
  ===========================
  **Domain labels written in ASCII letters and digits.**

  The part behind the last hyphen is a list of numbers in a mixed base; each number
  says which character comes next and where it is inserted.
-/

namespace ClientGen.Web

/-! ### Numbers in a mixed base -/

def punyDigit (c : Char) : Option Nat :=
  if 'a' ≤ c ∧ c ≤ 'z' then some (c.toNat - 'a'.toNat)
  else if 'A' ≤ c ∧ c ≤ 'Z' then some (c.toNat - 'A'.toNat)
  else if '0' ≤ c ∧ c ≤ '9' then some (c.toNat - '0'.toNat + 26)
  else none

/-- Bring a step size down to the base, counting by `k`. -/
def adaptSteps (delta k : Nat) : Nat :=
  if 455 < delta then adaptSteps (delta / 35) (k + 36)
  else k + 36 * delta / (delta + 38)
termination_by delta
decreasing_by omega

def adaptBias (delta count : Nat) (first : Bool) : Nat :=
  let delta := if first then delta / 700 else delta / 2
  adaptSteps (delta + delta / count) 0

def threshold (k bias : Nat) : Nat :=
  if k ≤ bias then 1 else if bias + 26 ≤ k then 26 else k - bias

/-! ### Insertion -/

/-- What has been read: the characters so far, the next character and place, and the
    number that is being read. -/
structure PunyState where
  output : List Char
  code : Nat
  place : Nat
  bias : Nat
  start : Nat
  weight : Nat
  k : Nat
deriving Repr

def PunyState.initial (basic : List Char) : PunyState :=
  ⟨basic, 128, 0, 72, 0, 1, 36⟩

def isScalar (n : Nat) : Bool :=
  n < 0xD800 || (0xE000 ≤ n && n < 0x110000)

def PunyState.insert (s : PunyState) : Option PunyState :=
  let count := s.output.length + 1
  let code := s.code + s.place / count
  let place := s.place % count
  if isScalar code then
    some {
      output := s.output.take place ++ Char.ofNat code :: s.output.drop place
      code := code
      place := place + 1
      bias := adaptBias (s.place - s.start) count (s.start == 0)
      start := place + 1
      weight := 1
      k := 36 }
  else none

def PunyState.step (s : PunyState) (c : Char) : Option PunyState :=
  match punyDigit c with
  | none => none
  | some d =>
    let t := threshold s.k s.bias
    let s := { s with place := s.place + d * s.weight }
    if UInt32.size ≤ s.place then none
    else if d < t then s.insert
    else if UInt32.size ≤ s.weight * (36 - t) then none
    else some { s with weight := s.weight * (36 - t), k := s.k + 36 }

def PunyState.run (s : PunyState) : List Char → Option (List Char)
  | [] => if s.k = 36 then some s.output else none
  | c :: cs =>
    match s.step c with
    | none => none
    | some s => s.run cs

/-- The label behind the mark of an encoded label; a hyphen that nothing stands in front
    of is read as a digit, which it is not. -/
def decodePunycode (cs : List Char) : Option (List Char) :=
  let back := cs.reverse
  match back.dropWhile (· != '-') with
  | _ :: first :: basicBack =>
    PunyState.run (.initial (first :: basicBack).reverse) (back.takeWhile (· != '-')).reverse
  | _ => PunyState.run (.initial []) cs

end ClientGen.Web
