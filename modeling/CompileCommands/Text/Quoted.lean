import CompileCommands.Text.Printable.Table

/-!
# Quoted text

Text as a message quotes it: between double quotes, with a backslash before quotes and
backslashes, letters for the usual control characters, and the code point of every other
character that cannot be seen on its own.
-/

namespace CompileCommands.Text

/-- The character can be seen on its own. -/
def isPrintable (c : Char) : Bool :=
  let isIn (runs : List (Nat × Nat)) : Bool :=
    runs.any fun r => r.1 ≤ c.toNat && c.toNat ≤ r.2
  !isIn Printable.withoutGlyph && !isIn Printable.graphemeExtend

/-- The code point of a character between braces. -/
def escapeCode (c : Char) : List Char :=
  ['\\', 'u', '\x7b'] ++ Nat.toDigits 16 c.toNat ++ ['\x7d']

/-- The quoted form of one character. -/
def quoteChar (c : Char) : List Char :=
  if c = '\x00' then ['\\', '0']
  else if c = '\t' then ['\\', 't']
  else if c = '\r' then ['\\', 'r']
  else if c = '\n' then ['\\', 'n']
  else if c = '"' ∨ c = '\\' then ['\\', c]
  else if isPrintable c then [c]
  else escapeCode c

/-- The quoted form of a text. -/
def quoted (s : String) : String :=
  String.ofList ('"' :: s.toList.flatMap quoteChar ++ ['"'])

end CompileCommands.Text
