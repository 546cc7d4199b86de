/-
  ClientGen/Web/Domain.lean
  =========================
  **Domain names with characters of any script.**

  Characters are replaced by their domain form and composed, labels are checked for where
  marks, joiners and directions may stand, and encoded labels have to decode to a label
  that is valid as it is.
-/
import ClientGen.Text.Alphabetic
import ClientGen.Text.Case
import ClientGen.Text.Split
import ClientGen.Web.Composition
import ClientGen.Web.DirectionTable
import ClientGen.Web.DomainTable
import ClientGen.Web.FormTable
import ClientGen.Web.JoiningTable
import ClientGen.Web.Punycode

namespace ClientGen.Web

open ClientGen.Text

/-! ### Domain form of characters -/

def isDisallowed (c : Char) : Bool :=
  inRanges c.toNat disallowedRangesA || inRanges c.toNat disallowedRangesB
    || inRanges c.toNat disallowedRangesC

def isIgnored (c : Char) : Bool :=
  inRanges c.toNat ignoredRanges

/-- Capital letters that stand for themselves in domain names. -/
def keepsCapital (c : Char) : Bool :=
  0x13A0 ≤ c.toNat && c.toNat ≤ 0x13F5

def formRuns : List (Nat × Array (List Char)) :=
  ((singleFormsA ++ singleFormsB).map fun (first, forms) =>
      (first, (forms.toList.map fun c => [c]).toArray))
    ++ (severalFormsA ++ severalFormsB ++ severalFormsC).map fun (first, forms) =>
      (first, (forms.map String.toList).toArray)

def listedForm? (c : Char) : Option (List Char) :=
  formRuns.findSome? fun (first, forms) =>
    if first ≤ c.toNat then forms[c.toNat - first]? else none

/-- The domain form of a character, nothing when it is disallowed. -/
def domainForm (c : Char) : Option (List Char) :=
  if c.toNat < 0x80 then some [c.toLower]
  else if isDisallowed c then none
  else if isIgnored c then some []
  else some ((listedForm? c).getD (if keepsCapital c then [c] else lowerChars c))

def domainForms (cs : List Char) : Option (List Char) :=
  (cs.mapM domainForm).map fun forms => composed forms.flatten

/-! ### Directions -/

inductive Direction where
  | left
  | right
  | arabicNumber
  | europeanNumber
  | mark
  | neutral
deriving DecidableEq, Repr

def asciiDirection (c : Char) : Direction :=
  if c.isAlpha then .left
  else if c.isDigit then .europeanNumber
  else .neutral

def isNonspacing (c : Char) : Bool :=
  inRanges c.toNat nonspacingRangesA || inRanges c.toNat nonspacingRangesB

def direction (c : Char) : Direction :=
  let n := c.toNat
  if n < 0x80 then asciiDirection c
  else if inRanges n rightwardRanges then .right
  else if inRanges n arabicNumberRanges then .arabicNumber
  else if inRanges n europeanNumberRanges then .europeanNumber
  else if isNonspacing c then .mark
  else if inRanges n neutralRanges then .neutral
  else .left

/-- The class makes a whole name subject to the direction rule. -/
def Direction.isRightward : Direction → Bool
  | .right | .arabicNumber => true
  | _ => false

/-- The rest of a label that starts from the left, marks at its end left out: nothing from
    the right, and a letter or a number at the end. -/
def leftwardRest (ds : List Direction) : Bool :=
  ds.all (!·.isRightward)
    && ds.getLast?.all fun d => d == .left || d == .europeanNumber

/-- The rest of a label that starts from the right, marks at its end left out: nothing from
    the left, a letter or a number at the end, and numbers of one kind. -/
def rightwardRest (ds : List Direction) : Bool :=
  ds.all (· != .left)
    && ds.getLast?.all (fun d => d == .right || d == .arabicNumber || d == .europeanNumber)
    && !(ds.contains .europeanNumber && ds.contains .arabicNumber)

def directedLabel (cs : List Char) : Bool :=
  match cs.map direction with
  | [] => true
  | first :: rest =>
    let rest := (rest.reverse.dropWhile (· == .mark)).reverse
    match first with
    | .left => leftwardRest rest
    | .right => rightwardRest rest
    | _ => false

/-! ### Joiners -/

/-- Joining passes over the character. -/
def isTransparent (c : Char) : Bool :=
  isNonspacing c || inRanges c.toNat transparentRanges

def joinsBefore (back : List Char) : Bool :=
  match back.dropWhile isTransparent with
  | c :: _ => inRanges c.toNat leftJoiningRanges || inRanges c.toNat dualJoiningRanges
  | [] => false

def joinsAfter (rest : List Char) : Bool :=
  match rest.dropWhile isTransparent with
  | c :: _ => inRanges c.toNat rightJoiningRanges || inRanges c.toNat dualJoiningRanges
  | [] => false

/-- The class of signs that suppress a vowel. -/
def viramaClass : Nat := 9

def afterVirama (back : List Char) : Bool :=
  match back with
  | c :: _ => combiningClass c == viramaClass
  | [] => false

/-- Every joiner and non-joiner stands where it may; `back` holds the characters in
    front, the nearest first. -/
def joinersAllowed (back : List Char) : List Char → Bool
  | [] => true
  | c :: rest =>
    (if c.toNat = 0x200D then afterVirama back
      else if c.toNat = 0x200C then
        afterVirama back || (joinsBefore back && joinsAfter rest)
      else true)
      && joinersAllowed (c :: back) rest

/-! ### Labels -/

def isMark (c : Char) : Bool :=
  isNonspacing c || inRanges c.toNat spacingRanges

def isBeyondAscii (c : Char) : Bool :=
  0x80 ≤ c.toNat

def longestLabel : Nat := 1000

def longestCode : Nat := 2000

def wellFormedLabel (cs : List Char) : Bool :=
  !cs.head?.any isMark && joinersAllowed [] cs
    && (!cs.any isBeyondAscii || cs.length ≤ longestLabel)

/-- The label is one that has to be encoded, and it is its own domain form. -/
def isDecodedLabel (cs : List Char) : Bool :=
  cs.any isBeyondAscii && domainForms cs == some cs

def decodedLabel? (code : List Char) : Option (List Char) :=
  if code.any isBeyondAscii || code.getLast?.all (· == '-') || longestCode < code.length then none
  else (decodePunycode code).filter isDecodedLabel

def shownLabel (cs : List Char) : Option (List Char) :=
  let shown := match dropFront "xn--".toList cs with
    | some code => decodedLabel? code
    | none => some cs
  shown.filter wellFormedLabel

def isForbidden (c : Char) : Bool :=
  c.toNat ≤ 0x20 || c.toNat = 0x7F || "%#/:<>?@[\\]^|".toList.contains c

/-- The domain name in its compared form, nothing when it is not valid. -/
def domainName? (cs : List Char) : Option (List Char) :=
  match domainForms cs with
  | none => none
  | some form =>
    match (pieces '.' form).mapM shownLabel with
    | none => none
    | some labels =>
      if form.any isForbidden || labels.any (fun l => l.any isForbidden) then none
      else if labels.any (fun l => l.any fun c => (direction c).isRightward)
          && !labels.all directedLabel then none
      else some form

end ClientGen.Web
