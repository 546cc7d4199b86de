/-
  ClientGen/Text/Literal.lean
  ===========================
  **Quoted string literals.**

  Inside double quotes a backslash, a quote, a dollar sign, a line feed, a carriage
  return and a tab are written as escapes; the dollar sign because an
  interpolation is always emitted on purpose.
-/

namespace ClientGen.Text

/-- The written form of one character between double quotes. -/
def escapeChar : Char → List Char
  | '\\' => ['\\', '\\']
  | '"' => ['\\', '"']
  | '$' => ['\\', '$']
  | '\n' => ['\\', 'n']
  | '\r' => ['\\', 'r']
  | '\t' => ['\\', 't']
  | c => [c]

def escape (s : String) : String :=
  String.ofList (s.toList.flatMap escapeChar)

def quoted (s : String) : String :=
  "\"" ++ escape s ++ "\""

end ClientGen.Text
