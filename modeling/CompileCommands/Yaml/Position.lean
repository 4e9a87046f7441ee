/-!
# Positions in a YAML text

A cursor is what is left of a text together with where that is. Lines end at a line feed, a
carriage return, both together, a next line, a line separator or a paragraph separator.
-/

namespace CompileCommands.Yaml

/-- A place in a text. Everything counts from zero. -/
structure Position where
  /-- How many octets come before. -/
  index : Nat := 0
  /-- How many lines come before. -/
  line : Nat := 0
  /-- How many characters of the line come before. -/
  column : Nat := 0
  deriving DecidableEq, Repr, Inhabited

namespace Position

/-- The place after a character that ends no line. -/
def next (p : Position) (c : Char) : Position :=
  { p with index := p.index + c.utf8Size, column := p.column + 1 }

/-- The place after some characters that end no line. -/
def advance (p : Position) (run : List Char) : Position :=
  run.foldl next p

/-- The place after a line end, which may be of two characters. -/
def nextLine (p : Position) (lineEnd : List Char) : Position :=
  { index := (p.advance lineEnd).index, line := p.line + 1, column := 0 }

/-- The place lies past the first character of the text. -/
def isPastStart (p : Position) : Bool :=
  p.line ≠ 0 || p.column ≠ 0

/-- A place in a message, where everything counts from one. -/
def text (p : Position) : String :=
  "line " ++ toString (p.line + 1) ++ " column " ++ toString (p.column + 1)

/-- The end of a message that names a place. The start of the text is left out. -/
def placeText (p : Position) : String :=
  if p.isPastStart then " at " ++ p.text else ""

end Position

/-- The character ends a line. -/
def isBreak (c : Char) : Bool :=
  c == '\n' || c == '\r' || c == '\u0085' || c == '\u2028' || c == '\u2029'

/-- The character separates words on a line. -/
def isBlank (c : Char) : Bool :=
  c == ' ' || c == '\t'

/-- The character may stand in a name. -/
def isNameChar (c : Char) : Bool :=
  c.isAlphanum || c == '_' || c == '-'

/-- What a line end stands for in a scalar. Separators keep their identity. -/
def breakText (c : Char) : List Char :=
  if c == '\u2028' || c == '\u2029' then [c] else ['\n']

/-- The value of a hexadecimal digit. -/
def hexValue? (c : Char) : Option Nat :=
  if '0' ≤ c ∧ c ≤ '9' then some (c.toNat - 0x30)
  else if 'a' ≤ c ∧ c ≤ 'f' then some (c.toNat - 0x57)
  else if 'A' ≤ c ∧ c ≤ 'F' then some (c.toNat - 0x37)
  else none

/-- What is left of a text, and where that is. -/
structure Cursor where
  /-- The characters that are left. -/
  rest : List Char
  /-- Where they start. -/
  position : Position
  deriving Repr, Inhabited

namespace Cursor

/-- The cursor at the start of a text. -/
def ofText (s : String) : Cursor := ⟨s.toList, {}⟩

/-- The character `offset` places ahead. -/
def ahead? (c : Cursor) (offset : Nat) : Option Char :=
  c.rest[offset]?

/-- The cursor stands before `char`. -/
def isAt (c : Cursor) (char : Char) : Bool :=
  c.ahead? 0 == some char

/-- A blank, a line end or the end of the text stands `offset` places ahead. -/
def spaceAhead (c : Cursor) (offset : Nat) : Bool :=
  match c.ahead? offset with
  | some char => isBlank char || isBreak char
  | none => true

/-- A line end or the end of the text stands at the cursor. -/
def atLineEnd (c : Cursor) : Bool :=
  match c.ahead? 0 with
  | some char => isBreak char
  | none => true

/-- The cursor after `count` characters that end no line. -/
def skip (c : Cursor) (count : Nat) : Cursor :=
  ⟨c.rest.drop count, c.position.advance (c.rest.take count)⟩

/-- The longest run of characters that satisfy `p`, and the cursor after it. -/
def span (p : Char → Bool) (c : Cursor) : List Char × Cursor :=
  let run := c.rest.takeWhile p
  (run, c.skip run.length)

/-- The cursor after the longest run of characters that satisfy `p`. -/
def skipWhile (p : Char → Bool) (c : Cursor) : Cursor :=
  (c.span p).2

/-- The cursor after the line end at which it stands, and what the line end stands for. -/
def takeBreak (c : Cursor) : List Char × Cursor :=
  match c.rest with
  | '\r' :: '\n' :: rest => (['\n'], ⟨rest, c.position.nextLine ['\r', '\n']⟩)
  | char :: rest =>
    if isBreak char then (breakText char, ⟨rest, c.position.nextLine [char]⟩) else ([], c)
  | [] => ([], c)

/-- The cursor after the line end at which it stands. -/
def skipBreak (c : Cursor) : Cursor :=
  c.takeBreak.2

end Cursor

/-- Three of `char` and then a blank, a line end or the end start the text. -/
def startsWithMark (char : Char) : List Char → Bool
  | a :: b :: c :: rest =>
    a == char && b == char && c == char &&
      match rest with
      | d :: _ => isBlank d || isBreak d
      | [] => true
  | _ => false

/-- The text starts with the mark for the start or the end of a document. -/
def startsWithDocumentMark (cs : List Char) : Bool :=
  startsWithMark '-' cs || startsWithMark '.' cs

end CompileCommands.Yaml
