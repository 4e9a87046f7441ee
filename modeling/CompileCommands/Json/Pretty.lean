import CompileCommands.Json.Value

/-!
# Indented JSON

Every item and every member stands on a line of its own, two spaces deeper than what holds
it; an empty list or object is written on one line. In text, the quote, the backslash and the
control characters below the space are escaped, and every other character stands for itself.
-/

namespace CompileCommands.Json

/-- The hexadecimal digit of a number below sixteen. -/
def hexDigit (n : Nat) : Char :=
  if n < 10 then Char.ofNat (0x30 + n) else Char.ofNat (0x57 + n)

/-- The written form of one character of a text. -/
def escapeChar (c : Char) : List Char :=
  if c = '"' then ['\\', '"']
  else if c = '\\' then ['\\', '\\']
  else if c = '\x08' then ['\\', 'b']
  else if c = '\x0C' then ['\\', 'f']
  else if c = '\n' then ['\\', 'n']
  else if c = '\r' then ['\\', 'r']
  else if c = '\t' then ['\\', 't']
  else if c.toNat < 0x20 then
    ['\\', 'u', '0', '0', hexDigit (c.toNat / 16), hexDigit (c.toNat % 16)]
  else [c]

/-- The written form of a text. -/
def quote (s : String) : List Char :=
  '"' :: s.toList.flatMap escapeChar ++ ['"']

/-- The start of a line that is `depth` levels deep. -/
def newline (depth : Nat) : List Char :=
  '\n' :: List.replicate (2 * depth) ' '

/-- The parts on lines of their own between two brackets, inside a line `depth` levels
deep. -/
def block (opening closing : Char) (depth : Nat) (parts : List (List Char)) : List Char :=
  if parts = [] then [opening, closing]
  else
    opening :: newline (depth + 1) ++ (',' :: newline (depth + 1)).intercalate parts ++
      newline depth ++ [closing]

mutual

/-- The written form of a value that starts inside a line `depth` levels deep. -/
def Value.prettyAt (depth : Nat) : Value → List Char
  | .number n => (Nat.repr n).toList
  | .text s => quote s
  | .array items => block '[' ']' depth (prettyItems (depth + 1) items)
  | .object members => block '\x7b' '\x7d' depth (prettyMembers (depth + 1) members)

/-- The written forms of the items of a list. -/
def prettyItems (depth : Nat) : List Value → List (List Char)
  | [] => []
  | item :: items => item.prettyAt depth :: prettyItems depth items

/-- The written forms of the members of an object. -/
def prettyMembers (depth : Nat) : List (String × Value) → List (List Char)
  | [] => []
  | (name, value) :: members =>
    (quote name ++ [':', ' '] ++ value.prettyAt depth) :: prettyMembers depth members

end

/-- The written form of a value. -/
def Value.pretty (value : Value) : String :=
  String.ofList (value.prettyAt 0)

end CompileCommands.Json
