/-
  ClientGen/Text/Case.lean
  ========================
  **Small and capital forms of a character.**

  The full case mapping of the Unicode standard: the form of one character may be
  several characters.
-/
import ClientGen.Text.CaseTable

namespace ClientGen.Text

def CaseRun.covers (r : CaseRun) (n : Nat) : Bool :=
  r.first ≤ n && n ≤ r.last && (n - r.first) % r.stride == 0

def CaseRun.image (r : CaseRun) (n : Nat) : Nat :=
  ((n : Int) + r.shift).toNat

/-- Map one character by the runs and sequences of one direction. -/
def mapCase (runs : List CaseRun) (sequences : List (Nat × List Nat)) (c : Char) : List Char :=
  match sequences.lookup c.toNat with
  | some ns => ns.map Char.ofNat
  | none =>
    match runs.find? fun r => r.covers c.toNat with
    | some r => [Char.ofNat (r.image c.toNat)]
    | none => [c]

def lowerChars (c : Char) : List Char :=
  if c.toNat < 0x80 then [c.toLower] else mapCase lowerRuns lowerSequences c

def upperChars (c : Char) : List Char :=
  if c.toNat < 0x80 then [c.toUpper] else mapCase upperRuns upperSequences c

/-- Change ASCII capitals to small letters and leave every other character. -/
def asciiLower (s : String) : String :=
  String.ofList (s.toList.map Char.toLower)

def equalsIgnoringCase (s t : String) : Bool :=
  asciiLower s == asciiLower t

end ClientGen.Text
