/-
  ClientGen/Text/Blank.lean
  =========================
  **Blank characters and what is built on them.**

  A character is blank when it has the White_Space property of the Unicode
  standard.  Trimming, the test for a blank text and the removal of every blank
  all go through this one class, so that no two parts of the generator disagree
  about what an empty header name is.
-/

namespace ClientGen.Text

/-! ### The class -/

/-- Characters with the White_Space property. -/
def isBlankChar (c : Char) : Bool :=
  let n := c.toNat
  (9 ≤ n && n ≤ 13) || n == 0x20 || n == 0x85 || n == 0xA0 || n == 0x1680
    || (0x2000 ≤ n && n ≤ 0x200A) || n == 0x2028 || n == 0x2029 || n == 0x202F
    || n == 0x205F || n == 0x3000

/-! ### Trimming -/

def trimChars (cs : List Char) : List Char :=
  ((cs.dropWhile isBlankChar).reverse.dropWhile isBlankChar).reverse

def trim (s : String) : String :=
  String.ofList (trimChars s.toList)

/-- Every character is blank; the empty text is blank too. -/
def isBlank (s : String) : Bool :=
  s.toList.all isBlankChar

def removeBlanks (s : String) : String :=
  String.ofList (s.toList.filter fun c => !isBlankChar c)

theorem toList_trim (s : String) : (trim s).toList = trimChars s.toList := by
  simp [trim]

theorem dropWhile_blank_eq_nil {cs : List Char} (h : ∀ c ∈ cs, isBlankChar c = true) :
    cs.dropWhile isBlankChar = [] := by
  induction cs with
  | nil => rfl
  | cons c cs ih =>
    rw [List.dropWhile_cons, if_pos (h c (by simp))]
    exact ih fun d hd => h d (by simp [hd])

end ClientGen.Text
