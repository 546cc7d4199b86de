/-
  ClientGen/Web/IpAddress.lean
  ============================
  **Numeric hosts.**

  A host whose last label is a number is an address of four bytes in decimal, octal or
  hexadecimal parts; a host in brackets is an address of eight pieces.
-/
import ClientGen.Text.Split

namespace ClientGen.Web

open ClientGen.Text

/-! ### Four bytes -/

def digitValue (c : Char) : Option Nat :=
  if c.isDigit then some (c.toNat - '0'.toNat)
  else if 'a' ≤ c ∧ c ≤ 'f' then some (c.toNat - 'a'.toNat + 10)
  else if 'A' ≤ c ∧ c ≤ 'F' then some (c.toNat - 'A'.toNat + 10)
  else none

def numberOf (base : Nat) (cs : List Char) : Option Nat :=
  cs.foldl (fun n c =>
    match n, digitValue c with
    | some n, some d => if d < base then some (n * base + d) else none
    | _, _ => none) (some 0)

/-- The number that a part of an address writes: `0x` starts a hexadecimal one, a
    leading zero an octal one. -/
def partNumber? : List Char → Option Nat
  | [] => none
  | '0' :: 'x' :: cs => numberOf 16 cs
  | '0' :: 'X' :: cs => numberOf 16 cs
  | ['0'] => some 0
  | '0' :: cs => numberOf 8 cs
  | cs => numberOf 10 cs

def addressParts (host : List Char) : List (List Char) :=
  let parts := pieces '.' host
  match parts.getLast? with
  | some [] => if 1 < parts.length then parts.dropLast else parts
  | _ => parts

def endsInNumber (host : List Char) : Bool :=
  let parts := pieces '.' host
  let last := match parts.getLast? with
    | some [] => if 1 < parts.length then parts.dropLast.getLast? else none
    | other => other
  match last with
  | some l => (!l.isEmpty && l.all Char.isDigit) || (partNumber? l).isSome
  | none => false

/-- The host is an address: at most four parts, each but the last a byte, and the last
    fills the bytes that are left. -/
def isAddress (host : List Char) : Bool :=
  let parts := addressParts host
  match parts.mapM partNumber? with
  | none => false
  | some numbers =>
    match numbers.reverse with
    | [] => false
    | last :: front =>
      numbers.length ≤ 4 && last ≤ (UInt32.size - 1) / Nat.pow 256 front.length
        && front.all fun n => n ≤ 255

/-! ### Eight pieces -/

def takeHex : Nat → List Char → List Char × List Char
  | 0, cs => ([], cs)
  | _, [] => ([], [])
  | n + 1, c :: cs =>
    if (digitValue c).isSome then
      let (ds, rest) := takeHex n cs
      (c :: ds, rest)
    else ([], c :: cs)

def isByte (cs : List Char) : Bool :=
  match cs with
  | [] => false
  | [c] => c.isDigit
  | '0' :: _ => false
  | cs => cs.all Char.isDigit && cs.length ≤ 3 && (numberOf 10 cs).any (· ≤ 255)

def isByteTail (cs : List Char) : Bool :=
  let parts := pieces '.' cs
  parts.length == 4 && parts.all isByte

/-- Read pieces while `left` may follow; `short` when a run of zeros was left out. -/
def isPieces : (left : Nat) → (short : Bool) → List Char → Bool
  | left, short, [] => short || left == 0
  | 0, _, _ :: _ => false
  | left + 1, short, ':' :: rest => !short && isPieces left true rest
  | left + 1, short, cs =>
    let (digits, rest) := takeHex 4 cs
    match rest with
    | [] => isPieces left short []
    | ':' :: r => !r.isEmpty && isPieces left short r
    | '.' :: _ => !digits.isEmpty && 1 ≤ left && isByteTail cs && (short || left == 1)
    | _ => false

def isPieceAddress (cs : List Char) : Bool :=
  match cs with
  | ':' :: ':' :: rest => isPieces 7 true rest
  | ':' :: _ => false
  | [_] | [] => false
  | cs => isPieces 8 false cs

end ClientGen.Web
