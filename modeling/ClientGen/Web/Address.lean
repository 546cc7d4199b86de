/-
  ClientGen/Web/Address.lean
  ==========================
  **Paths that are valid web addresses.**

  A path is valid when it is an absolute address or a reference that makes sense below
  an `https` address.  Only the host, the number behind its colon and an authority
  without a host can be wrong; everything behind them is accepted.
-/
import ClientGen.Web.Domain
import ClientGen.Web.IpAddress

namespace ClientGen.Web

open ClientGen.Text

/-! ### Schemes -/

/-- How a scheme treats what follows it. -/
inductive SchemeKind where
  | file
  /-- A scheme whose addresses have a host. -/
  | special
  | other
deriving DecidableEq, Repr

def SchemeKind.of (scheme : String) : SchemeKind :=
  if scheme = "file" then .file
  else if ["http", "https", "ws", "wss", "ftp"].contains scheme then .special
  else .other

def isSchemeChar (c : Char) : Bool :=
  c.isAlphanum || c == '+' || c == '-' || c == '.'

def splitScheme (cs : List Char) : Option (SchemeKind × List Char) :=
  match cs with
  | c :: _ =>
    if c.isAlpha then
      let name := cs.takeWhile isSchemeChar
      match cs.dropWhile isSchemeChar with
      | ':' :: rest => some (.of (asciiLower (String.ofList name)), rest)
      | _ => none
    else none
  | [] => none

/-! ### Hosts -/

/-- A hexadecimal pair behind a percent sign is one byte. -/
def percentDecode : List UInt8 → List UInt8
  | [] => []
  | b :: x :: y :: rest =>
    if b = 0x25 then
      match digitValue (Char.ofNat x.toNat), digitValue (Char.ofNat y.toNat) with
      | some h, some l => UInt8.ofNat (h * 16 + l) :: percentDecode rest
      | _, _ => b :: percentDecode (x :: y :: rest)
    else b :: percentDecode (x :: y :: rest)
  | b :: rest => b :: percentDecode rest

def decodeHost? (cs : List Char) : Option (List Char) :=
  let bytes := percentDecode (String.ofList cs).toUTF8.toList
  (String.fromUTF8? ⟨bytes.toArray⟩).map String.toList

def isBracketed (cs : List Char) : Bool :=
  cs.getLast? == some ']' && isPieceAddress (cs.drop 1).dropLast

def isSpecialHost (cs : List Char) : Bool :=
  match cs with
  | '[' :: _ => isBracketed cs
  | _ =>
    match (decodeHost? cs).bind domainName? with
    | none => false
    | some name => !name.isEmpty && (!endsInNumber name || isAddress name)

def isHostDelimiter (c : Char) : Bool :=
  c.toNat = 0 || "\t\n\r #/:<>?@[\\]^|".toList.contains c

def isOpaqueHost (cs : List Char) : Bool :=
  match cs with
  | '[' :: _ => isBracketed cs
  | _ => !cs.any isHostDelimiter

/-! ### Authorities -/

def endsAuthority (kind : SchemeKind) (c : Char) : Bool :=
  c == '/' || c == '?' || c == '#' || (kind != .other && c == '\\')

/-- The host of an authority and what follows it; a colon in brackets belongs to the
    host. -/
def spanHost (kind : SchemeKind) (inBrackets : Bool) : List Char → List Char × List Char
  | [] => ([], [])
  | c :: cs =>
    if (c == ':' && !inBrackets) || endsAuthority kind c then ([], c :: cs)
    else
      let inside := if c = '[' then true else if c = ']' then false else inBrackets
      let (host, rest) := spanHost kind inside cs
      (c :: host, rest)

def isColonNumber (cs : List Char) : Bool :=
  let digits := cs.takeWhile Char.isDigit
  let ended := match cs.dropWhile Char.isDigit with
    | [] => true
    | c :: _ => c == '/' || c == '\\' || c == '?' || c == '#'
  ended && (numberOf 10 digits).any (· ≤ 65535)

def isHostAndNumber (kind : SchemeKind) (hasUser : Bool) (cs : List Char) : Bool :=
  let (host, rest) := spanHost kind false cs
  let hostValid := if kind = .special then !host.isEmpty && isSpecialHost host
    else isOpaqueHost host
  hostValid && !(host.isEmpty && hasUser)
    && (match rest with
        | ':' :: number => !host.isEmpty && isColonNumber number
        | _ => true)

/-- The authority in front of the path: at its last at sign a user ends. -/
def isAuthority (kind : SchemeKind) (cs : List Char) : Bool :=
  let authority := cs.takeWhile fun c => !endsAuthority kind c
  let rest := cs.drop authority.length
  let back := authority.reverse
  let hostBack := back.takeWhile (· != '@')
  if hostBack.length = authority.length then isHostAndNumber kind false cs
  else
    let user := (back.drop (hostBack.length + 1)).reverse
    let host := hostBack.reverse
    if user.isEmpty && host.isEmpty && !rest.isEmpty then false
    else isHostAndNumber kind (user != [] && user != [':']) (host ++ rest)

/-! ### Addresses -/

def isSlash (c : Char) : Bool :=
  c == '/' || c == '\\'

/-- A letter and a colon or bar name a drive. -/
def isDriveLetter (cs : List Char) : Bool :=
  match cs with
  | [c, d] => c.isAlpha && (d == ':' || d == '|')
  | _ => false

def isFileRest (cs : List Char) : Bool :=
  match cs with
  | a :: b :: rest =>
    if isSlash a && isSlash b then
      let host := rest.takeWhile fun c => !(isSlash c || c == '?' || c == '#')
      isDriveLetter host || host.isEmpty || isSpecialHost host
    else true
  | _ => true

def isSchemeRest (kind : SchemeKind) (cs : List Char) : Bool :=
  match kind with
  | .file => isFileRest cs
  | .special => isAuthority .special (cs.dropWhile isSlash)
  | .other =>
    match cs with
    | '/' :: '/' :: rest => isAuthority .other rest
    | _ => true

def isReference (cs : List Char) : Bool :=
  match cs with
  | '/' :: '/' :: rest => isAuthority .special rest
  | a :: b :: _ =>
    if isSlash a && isSlash b then isAuthority .special (cs.dropWhile isSlash) else true
  | _ => true

def isControlOrSpace (c : Char) : Bool :=
  c.toNat ≤ 0x20

/-- The characters of a path that count: none of the controls and blanks around it, and
    no tab or line break. -/
def countedChars (cs : List Char) : List Char :=
  (((cs.dropWhile isControlOrSpace).reverse.dropWhile isControlOrSpace).reverse).filter
    fun c => !(c == '\t' || c == '\n' || c == '\r')

/-- The path is a valid address or reference. -/
def isValidPath (path : String) : Bool :=
  let cs := countedChars path.toList
  match splitScheme cs with
  | some (kind, rest) => isSchemeRest kind rest
  | none => isReference cs

end ClientGen.Web
