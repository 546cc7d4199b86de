/-
  ClientGen/Web/Composition.lean
  ==============================
  **One spelling for letters with marks.**

  Letters that contain marks are taken apart, the marks behind a letter are put in the
  order of their classes, and what can be joined is joined again.
-/
import ClientGen.Text.Alphabetic
import ClientGen.Web.CompositionTable

namespace ClientGen.Web

open ClientGen.Text

/-! ### Classes of marks -/

/-- The class of a mark, zero for every character that starts a letter. -/
def combiningClass (c : Char) : Nat :=
  match combiningClasses.find? fun (_, ranges) => inRanges c.toNat ranges with
  | some (k, _) => k
  | none => 0

/-! ### Pairs -/

/-- The syllable of a consonant and a vowel, or of an open syllable and a final. -/
def syllable? (a b : Nat) : Option Nat :=
  if 0x1100 ≤ a ∧ a < 0x1113 ∧ 0x1161 ≤ b ∧ b < 0x1176 then
    some (0xAC00 + ((a - 0x1100) * 21 + (b - 0x1161)) * 28)
  else if 0xAC00 ≤ a ∧ a < 0xD7A4 ∧ (a - 0xAC00) % 28 = 0 ∧ 0x11A7 < b ∧ b < 0x11C3 then
    some (a + (b - 0x11A7))
  else none

def syllableParts? (n : Nat) : Option (Nat × Nat) :=
  if 0xAC00 ≤ n ∧ n < 0xD7A4 then
    let k := n - 0xAC00
    if k % 28 = 0 then some (0x1100 + k / 588, 0x1161 + k % 588 / 28)
    else some (n - k % 28, 0x11A7 + k % 28)
  else none

def groupPairs : List Char → List (Char × Char)
  | a :: c :: rest => (a, c) :: groupPairs rest
  | _ => []

def compositePairs : List (Char × List (Char × Char)) :=
  compositeGroups.map fun (b, text) => (Char.ofNat b, groupPairs text.toList)

def composite? (a b : Char) : Option Char :=
  match syllable? a.toNat b.toNat with
  | some n => some (Char.ofNat n)
  | none => compositePairs.findSome? fun (x, pairs) => if x = b then pairs.lookup a else none

def parts? (c : Char) : Option (Char × Char) :=
  if c.toNat < 0x80 then none
  else
    match syllableParts? c.toNat with
    | some (a, b) => some (Char.ofNat a, Char.ofNat b)
    | none =>
      compositePairs.findSome? fun (b, pairs) =>
        (pairs.find? fun (_, whole) => whole = c).map fun (a, _) => (a, b)

/-! ### Taking apart -/

def takenApart : Nat → Char → List Char
  | 0, c => [c]
  | depth + 1, c =>
    match parts? c with
    | some (a, b) => takenApart depth a ++ [b]
    | none => [c]

/-- The text without joined characters; none of them is nested deeper than four. -/
def decomposed (cs : List Char) : List Char :=
  cs.flatMap (takenApart 4)

/-! ### Order of marks -/

/-- Put a character in front of ordered text: marks of a lower class go first. -/
def placeMark (c : Char) : List Char → List Char
  | [] => [c]
  | d :: ds =>
    if combiningClass d ≠ 0 ∧ combiningClass d < combiningClass c then d :: placeMark c ds
    else c :: d :: ds

def ordered (cs : List Char) : List Char :=
  cs.foldr placeMark []

/-! ### Joining -/

/-- Join a letter with what follows it; `kept` holds the marks between them that did not
    join, the nearest first.  A mark joins unless one of its own or a higher class stands
    between. -/
def joinedFrom (start : Char) (kept : List Char) : List Char → List Char
  | [] => start :: kept.reverse
  | c :: cs =>
    let blocked := kept.head?.any fun k => combiningClass c ≤ combiningClass k
    match if blocked then none else composite? start c with
    | some joined => joinedFrom joined kept cs
    | none =>
      if combiningClass c = 0 then start :: (kept.reverse ++ joinedFrom c [] cs)
      else joinedFrom start (c :: kept) cs

/-- Join every letter with its marks; marks in front of the first letter stay. -/
def joined : List Char → List Char
  | [] => []
  | c :: cs => if combiningClass c = 0 then joinedFrom c [] cs else c :: joined cs

def composed (cs : List Char) : List Char :=
  joined (ordered (decomposed cs))

end ClientGen.Web
